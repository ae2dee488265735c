import DiskPlan.Options
import DiskPlan.Size.Checked

/-!
# Allocation

Giving the partitions of a table their places.  They lie back to back from the end of the header on,
each rounded up to the grain, in the order of the table except that the one with the root comes
last.  The table is as large as they need or as is asked for, whichever is more, and the last
partition takes all that is left up to the footer.

Partitions, extents and sizes are natural numbers; each sum or rounding that reaches the limit of a
disk is refused.
-/
namespace DiskPlan

/-- Every partition starts at a multiple of the grain. -/
def grain : Nat := Size.mebibyte

namespace Partition

/-- The space that a partition takes at least: its size or what its payload needs, rounded up to the
grain. -/
def extent (p : Partition) : Except PlanError Nat := do
  let size := max p.size (← p.payloadMinimum)
  Size.align size grain size

/-- The partition with its final size, which the primary subvolume of a btrfs volume reports. -/
def reportSize (p : Partition) : Partition :=
  match p.payload with
  | some (.btrfs volume) => { p with payload := some (.btrfs (volume.reportSize p.size)) }
  | _ => p

end Partition

/-- The partitions with the first one that mounts the root moved to the end. -/
def rootLast : List Partition → List Partition
  | [] => []
  | p :: ps => if p.mounts "/" then ps ++ [p] else p :: rootLast ps

/-- Moving the root last keeps every partition. -/
theorem perm_rootLast (ps : List Partition) : (rootLast ps).Perm ps := by
  induction ps with
  | nil => exact .refl _
  | cons p ps ih =>
    simp only [rootLast]
    split
    · exact List.perm_append_comm
    · exact ih.cons p

/-- Places partitions back to back from `start` on; gives them and the byte behind the last one. -/
def place (wanted : Nat) : Nat → List Partition → Except PlanError (List Partition × Nat)
  | start, [] => .ok ([], start)
  | start, p :: ps => do
    let size ← p.extent
    let next ← Size.sum start size wanted
    let (placed, stop) ← place wanted next ps
    return ({ p with start, size } :: placed, stop)

/-- The partitions with the last one stretched to end at `stop`. -/
def stretchLast (stop : Nat) : List Partition → List Partition
  | [] => []
  | [p] => [{ p with size := stop - p.start }]
  | p :: ps => p :: stretchLast stop ps

@[simp] theorem length_stretchLast (stop : Nat) (ps : List Partition) :
    (stretchLast stop ps).length = ps.length := by
  induction ps with
  | nil => rfl
  | cons p ps ih =>
    cases ps with
    | nil => rfl
    | cons q qs => simpa [stretchLast] using ih

/-- Whether a sector size is a power of two that divides the grain. -/
def isSectorSize (bytes : Nat) : Bool := (List.range 21).any fun k => Nat.pow 2 k == bytes

namespace Table

/-- The size of a table whose partitions end at `stop`, when at least `wanted` bytes are asked for.
In strict mode a request that is too small, unless it is zero, is refused. -/
def settleSize (t : Table) (stop wanted : Nat) (mode : SizingMode) : Except PlanError Nat := do
  let natural ← Size.align (← Size.sum stop t.footerSize wanted) grain wanted
  let requested ← Size.align wanted grain wanted
  if requested ≠ 0 ∧ requested < natural ∧ mode = .strict then
    throw (.geometry natural wanted)
  else return max natural requested

/-- The partitions of a table in their places, the last one stretched up to the footer, and the size
of the table, at least `minimum`. -/
def placement (t : Table) (minimum : Nat) (mode : SizingMode) :
    Except PlanError (List Partition × Nat) := do
  let wanted := max minimum t.size
  let start ← Size.align t.headerSize grain wanted
  let (placed, stop) ← place wanted start (rootLast t.partitions)
  let size ← t.settleSize stop wanted mode
  return (stretchLast (size - t.footerSize) placed, size)

/-- Gives the partitions of the table at hand their places and the table its size.  All that can
fail comes before the first change. -/
def allocateInPlace (minimum : Nat) (mode : SizingMode) :
    ExceptT PlanError (StateM Table) Unit := do
  let t ← get
  if t.finalized then throw .alreadyFinalized
  if !isSectorSize t.sectorSize then throw (.sectorSize t.sectorSize)
  let (partitions, size) ← t.placement minimum mode
  modify fun t => { t with partitions }
  modify fun t => { t with partitions := t.partitions.map (·.reportSize) }
  modify fun t => { t with size, finalized := true }

/-- The table with its partitions in their places. -/
def allocate (t : Table) (minimum : Nat) (mode : SizingMode) : Except PlanError Table :=
  let (result, allocated) := (allocateInPlace minimum mode).run.run t
  result.map fun _ => allocated

end Table
end DiskPlan
