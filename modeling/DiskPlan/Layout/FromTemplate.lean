import DiskPlan.Layout.Custom

/-!
# Tables from templates

A template is a table that serves many builds.  For one build a copy of it is taken: mountpoints
that it has already grow to the sizes that are asked for, and new ones get partitions of their own,
formatted like the root of the template unless they name a type.  The copy is then grown for the
directories, placed and identified like any other table.
-/
namespace DiskPlan

/-- A table that is being adapted to requests, and the sizes asked for mountpoints that it had. -/
structure Adaptation where
  /-- The table. -/
  table : Table
  /-- The sizes asked for what is in the table already. -/
  sizes : PathMap Nat := .empty

/-- Takes up one request: a size for a mountpoint that is there, or else a new partition. -/
def Adaptation.take (rootType : FsType) (a : Adaptation) (r : FilesystemRequest) : Adaptation :=
  if (a.table.find? r.mountpoint).isSome then
    { a with sizes := a.sizes.insert r.mountpoint r.minsize }
  else { a with table := a.table.add (r.partition a.table.type rootType) }

namespace Table

/-- A copy of a template with the requested filesystems, placed. -/
def adapt (template : Table) (requests : List FilesystemRequest) (size : Nat) (mode : SizingMode)
    (required : PathMap Nat) : Except PlanError Table := do
  (Customization.ofPlain requests).validate
  let copy := template.instantiate
  let some root := copy.find? "/" | throw .missingRoot
  let adapted := requests.foldl (Adaptation.take root.fsType) { table := copy }
  let table ← (adapted.table.growMountpoints adapted.sizes).toExcept
  let table ← (table.growDirectories required).toExcept
  table.allocate size mode

/-- The finished table of a template and the requested filesystems. -/
def fromTemplate (template : Table) (requests : List FilesystemRequest) (size : Nat)
    (mode : SizingMode) (required : PathMap Nat) (stream : ByteStream) :
    Except PlanError (Table × ByteStream) := do
  let table ← template.adapt requests size mode required
  return table.identify.run stream

end Table
end DiskPlan
