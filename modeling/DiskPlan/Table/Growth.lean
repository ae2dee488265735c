import DiskPlan.Mountable
import DiskPlan.Path
import DiskPlan.Size.Checked

/-!
# Growth

Making mountables large enough.  A plain filesystem grows its partition, a logical volume grows in
whole extents, and the subvolumes of a btrfs volume share its partition, so their needs are added
up.  The needs of directories are charged to the deepest mountable that holds each of them.

Growing goes through a table from front to back and stops at the first size that is too large; what
it had grown before stays grown.
-/
namespace DiskPlan

/-- A value after growing, and what stopped the growing, if anything did. -/
structure Grown (α : Type) where
  /-- The value, grown as far as it went. -/
  value : α
  /-- What stopped it. -/
  fault : Option PlanError := none

namespace Grown

variable {α β : Type}

/-- Grown without a fault. -/
def done (value : α) : Grown α := { value }

/-- The same growth of something that contains the value. -/
def map (f : α → β) (g : Grown α) : Grown β := ⟨f g.value, g.fault⟩

/-- What an attempt to grow a value gives; the value as it was when that fails. -/
def attempt (value : α) : Except PlanError α → Grown α
  | .ok grown => done grown
  | .error fault => ⟨value, some fault⟩

/-- The grown value, or the fault. -/
def toExcept (g : Grown α) : Except PlanError α :=
  match g.fault with
  | none => .ok g.value
  | some fault => .error fault

/-- Grows the values of a list one after the other, up to the first fault. -/
def each (grow : α → Grown α) : List α → Grown (List α)
  | [] => done []
  | a :: as =>
    match grow a with
    | ⟨a, some fault⟩ => ⟨a :: as, some fault⟩
    | ⟨a, none⟩ => (each grow as).map (a :: ·)

end Grown

/-! ## Growing to given sizes -/

/-- A logical volume grown to the least size of its mountpoint, in whole extents. -/
def LogicalVolume.growTo (sizes : PathMap Nat) (v : LogicalVolume) : Grown LogicalVolume :=
  match v.payload.mountpoint.bind sizes.get? with
  | none => .done v
  | some least =>
    .attempt v <| (VolumeGroup.wholeExtents least).map fun rounded =>
      { v with size := max v.size rounded }

/-- Adds the least sizes of subvolumes to what is already needed. -/
def addNeeds (sizes : PathMap Nat) : Nat → List Subvolume → Except PlanError Nat
  | needed, [] => .ok needed
  | needed, s :: ss =>
    match sizes.get? s.mountpoint with
    | none => addNeeds sizes needed ss
    | some least => do addNeeds sizes (← Size.sum needed least least) ss

/-- A partition grown to the least sizes of the mountpoints on it. -/
def Partition.growTo (sizes : PathMap Nat) (p : Partition) : Grown Partition :=
  match p.payload with
  | none => .done p
  | some (.filesystem fs) =>
    match fs.mountpoint.bind sizes.get? with
    | none => .done p
    | some least => .done { p with size := max p.size least }
  | some (.lvm group) =>
    (Grown.each (·.growTo sizes) group.logicalVolumes).map fun volumes =>
      { p with payload := some (.lvm { group with logicalVolumes := volumes }) }
  | some (.btrfs volume) =>
    .attempt p <| (addNeeds sizes 0 volume.subvolumes).map fun needed =>
      { p with size := max p.size needed }

/-- A table grown so that each listed mountpoint has at least its size. -/
def Table.growMountpoints (t : Table) (sizes : PathMap Nat) : Grown Table :=
  (Grown.each (·.growTo sizes) t.partitions).map fun partitions => { t with partitions }

/-! ## Charging directories -/

/-- Adds the needs of directories to the charges of their owners among the mountpoints; a directory
that none of them holds is passed over. -/
def addCharges (mountpoints : List String) :
    PathMap Nat → List (String × Nat) → Except PlanError (PathMap Nat)
  | charges, [] => .ok charges
  | charges, (dir, size) :: rest =>
    match Path.deepest mountpoints dir with
    | none => addCharges mountpoints charges rest
    | some owner => do
      let charge ← Size.sum ((charges.get? owner).getD 0) size size
      addCharges mountpoints (charges.insert owner charge) rest

/-- What each mountpoint of a table has to hold, when directories need the given sizes. -/
def Table.charges (t : Table) (required : PathMap Nat) : Except PlanError (PathMap Nat) :=
  addCharges (t.mountables.map (·.mountpoint)) .empty required.entries

/-- A table grown so that its mountables can hold the directories with the given sizes. -/
def Table.growDirectories (t : Table) (required : PathMap Nat) : Grown Table :=
  match t.charges required with
  | .error fault => ⟨t, some fault⟩
  | .ok charges => t.growMountpoints charges

end DiskPlan
