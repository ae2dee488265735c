import DiskPlan.Table

/-!
# Summaries

A table for people to read: a line for the whole, then a line for each partition with its number,
start, size, kind and mountpoints in columns.
-/
namespace DiskPlan

/-- A size in the largest of GiB, MiB and bytes in which it is whole. -/
def sizeText (bytes : Nat) : String :=
  if bytes % Size.gibibyte = 0 then toString (bytes / Size.gibibyte) ++ " GiB"
  else if bytes % Size.mebibyte = 0 then toString (bytes / Size.mebibyte) ++ " MiB"
  else toString bytes ++ " B"

/-- The blanks that fill a text up to a width. -/
def filler (width : Nat) (text : String) : String :=
  String.ofList (List.replicate (width - text.length) ' ')

/-- A text at the left of a column. -/
def alignLeft (width : Nat) (text : String) : String := text ++ filler width text

/-- A text at the right of a column. -/
def alignRight (width : Nat) (text : String) : String := filler width text ++ text

/-- A line of the summary, in its five columns. -/
def summaryLine (number start size kind mount : String) : String :=
  String.intercalate " "
    [alignLeft 4 number, alignRight 12 start, alignRight 12 size, alignLeft 8 kind,
      alignLeft 20 mount] ++ "\n"

namespace Partition

/-- What a partition holds, in a word. -/
def kindText (p : Partition) : String :=
  match p.payload with
  | none => "-"
  | some (.filesystem fs) => fs.type.word
  | some payload => payload.kind

/-- The mountpoints of a partition. -/
def mountText (p : Partition) : String :=
  match p.mountpoints with
  | [] => "-"
  | mountpoints => String.intercalate ", " mountpoints

/-- The line of a partition with its number. -/
def summary (number : Nat) (p : Partition) : String :=
  summaryLine (toString number) (sizeText p.start) (sizeText p.size) p.kindText p.mountText

end Partition

/-- The summary of a table. -/
def Table.summary (t : Table) : String :=
  "\nPartition table (" ++ t.type.word ++ ", total: " ++ sizeText t.size ++ "):\n"
    ++ summaryLine "NUM" "START" "SIZE" "KIND" "MOUNT"
    ++ String.ofList (List.replicate 60 '-') ++ "\n"
    ++ String.join (t.partitions.zipIdx.map fun (p, i) => p.summary (i + 1))
    ++ "\n"

end DiskPlan
