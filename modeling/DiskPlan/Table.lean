import DiskPlan.Payload

/-!
# Partition tables

A partition table is an ordered list of partitions.  At the start of the disk it keeps a header, and
a GPT keeps a copy of it, the footer, at the end.  A table is finalized once its partitions have
been given their places.
-/
namespace DiskPlan

/-- The kinds of partition table. -/
inductive TableType where
  | gpt
  | dos
  deriving Repr, DecidableEq

instance : Keyword TableType where
  all := [.gpt, .dos]
  word
    | .gpt => "gpt"
    | .dos => "dos"

/-- The word of a kind of partition table. -/
def TableType.word (t : TableType) : String := Keyword.word t

/-- A partition: a range of bytes, a type code and perhaps a payload. -/
structure Partition where
  /-- The first byte. -/
  start : Nat := 0
  /-- The least size before allocation, the size after it. -/
  size : Nat
  /-- The code for what it holds. -/
  type : String
  /-- Whether it is marked for booting. -/
  bootable : Bool := false
  /-- Its identifier, once it has one. -/
  uuid : Option String := none
  /-- What it holds. -/
  payload : Option Payload := none
  deriving Repr, DecidableEq

namespace Partition

/-- The byte behind a partition. -/
def stop (p : Partition) : Nat := p.start + p.size

/-- The mountpoints of what a partition holds, in order. -/
def mountpoints (p : Partition) : List String := p.payload.elim [] (·.mountpoints)

/-- Whether something on a partition is mounted at `mountpoint`. -/
def mounts (p : Partition) (mountpoint : String) : Bool := p.mountpoints.contains mountpoint

/-- The least size that what a partition holds needs. -/
def payloadMinimum (p : Partition) : Except PlanError Nat :=
  p.payload.elim (.ok 0) (·.minimumSize)

end Partition

/-- A partition table. -/
structure Table where
  /-- Its kind. -/
  type : TableType
  /-- The size of the disk image; zero before it is settled. -/
  size : Nat := 0
  /-- The size of a sector. -/
  sectorSize : Nat := 512
  /-- Its identifier, once it has one. -/
  uuid : Option String := none
  /-- The partitions, in order. -/
  partitions : List Partition := []
  /-- Whether the partitions have been given their places. -/
  finalized : Bool := false
  deriving Repr, DecidableEq

namespace Table

/-- The table with one more partition at the end. -/
def add (t : Table) (p : Partition) : Table := { t with partitions := t.partitions ++ [p] }

/-- A copy of a table that can be given places again. -/
def instantiate (t : Table) : Table := { t with finalized := false }

/-- A GPT has room for at least this many entries. -/
def minimumEntries : Nat := 128

/-- The size of an entry of a GPT. -/
def entrySize : Nat := 128

/-- The space for the entries of a GPT, in whole sectors where they can be rounded to those. -/
def entryArray (t : Table) : Nat :=
  let bytes := max t.partitions.length minimumEntries * entrySize
  (Size.alignUp? bytes t.sectorSize).getD bytes

/-- The bytes kept at the start of the disk: a sector, and in a GPT the entries. -/
def headerSize (t : Table) : Nat :=
  match t.type with
  | .dos => t.sectorSize
  | .gpt => t.sectorSize + t.entryArray

/-- The bytes kept at the end of the disk: in a GPT, as many as at the start. -/
def footerSize (t : Table) : Nat :=
  match t.type with
  | .dos => 0
  | .gpt => t.headerSize

/-- The place of the first partition on which the root is mounted. -/
def rootIndex? (t : Table) : Option Nat := t.partitions.findIdx? (·.mounts "/")

end Table
end DiskPlan
