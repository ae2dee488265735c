import DiskPlan.Proofs.Growth.Charges
import DiskPlan.Proofs.Mountpoints.Kept

/-!
# Growth in unbounded numbers

What growing for directories computes when no size is refused: the table that can hold what its
mountpoints are charged (`Table.grown`).  Whatever growing adds up or rounds is a part of the grown
table, so growing a table and placing it is refused exactly when the table in its place reaches the
limit of a disk (`Table.exact_growAndAllocate`).
-/
namespace DiskPlan

open Size (limit roundUp Exact)

/-! ## Growth without faults -/

namespace Grown

variable {α β : Type}

lemma toExcept_map (f : α → β) (g : Grown α) : (g.map f).toExcept = g.toExcept.map f := by
  rcases g with ⟨value, _ | fault⟩
  · rfl
  · rfl

lemma toExcept_attempt (a : α) (r : Except PlanError α) : (attempt a r).toExcept = r := by
  rcases r with fault | grown
  · rfl
  · rfl

/-- Growing a list is growing each of its values, up to the first fault. -/
lemma toExcept_each (grow : α → Grown α) (as : List α) :
    (each grow as).toExcept = as.mapM fun a => (grow a).toExcept := by
  induction as with
  | nil => rfl
  | cons a as ih =>
    rw [List.mapM_cons, ← ih, each]
    rcases grow a with ⟨value, _ | fault⟩
    · dsimp only
      rw [toExcept_map]
      rcases (each grow as).toExcept with fault | values
      · rfl
      · rfl
    · rfl

end Grown

/-! ## Logical volumes -/

namespace LogicalVolume

/-- The size that a volume is to have at least. -/
def charge (sizes : PathMap Nat) (v : LogicalVolume) : Nat :=
  v.payload.mountpoint.elim 0 sizes.amount

/-- A volume with room for its charge, in whole extents. -/
def grown (sizes : PathMap Nat) (v : LogicalVolume) : LogicalVolume :=
  { v with size := max v.size (roundUp (v.charge sizes) VolumeGroup.extent) }

lemma exact_growTo (sizes : PathMap Nat) (v : LogicalVolume) :
    Exact (v.growTo sizes).toExcept (roundUp (v.charge sizes) VolumeGroup.extent < limit)
      (v.grown sizes) := by
  have hzero : roundUp 0 VolumeGroup.extent = 0 := by decide
  have hcharge : v.charge sizes = (v.payload.mountpoint.bind sizes.get?).getD 0 := by
    unfold charge PathMap.amount
    rcases v.payload.mountpoint with _ | mountpoint
    · rfl
    · rfl
  rw [growTo, grown, hcharge]
  rcases v.payload.mountpoint.bind sizes.get? with _ | least
  · rw [Option.getD_none, hzero, Nat.max_zero]
    exact .ok Size.limit_pos
  · rw [Option.getD_some, Grown.toExcept_attempt]
    exact (VolumeGroup.exact_wholeExtents least).map _

end LogicalVolume

/-! ## Btrfs volumes -/

namespace BtrfsVolume

/-- The charges of some subvolumes together. -/
def chargeOf (sizes : PathMap Nat) (ss : List Subvolume) : Nat :=
  Size.total (fun s => sizes.amount s.mountpoint) ss

@[simp] lemma chargeOf_cons (sizes : PathMap Nat) (s : Subvolume) (ss : List Subvolume) :
    chargeOf sizes (s :: ss) = sizes.amount s.mountpoint + chargeOf sizes ss := rfl

lemma exact_addNeeds (sizes : PathMap Nat) (needed : Nat) (ss : List Subvolume)
    (h : needed < limit) :
    Exact (addNeeds sizes needed ss) (needed + chargeOf sizes ss < limit)
      (needed + chargeOf sizes ss) := by
  induction ss generalizing needed with
  | nil => exact .ok h
  | cons s ss ih =>
    rw [chargeOf_cons, ← Nat.add_assoc, PathMap.amount, addNeeds]
    rcases sizes.get? s.mountpoint with _ | least
    · exact ih needed h
    · rw [Option.getD_some]
      exact (Size.exact_sum needed least least).bind (fun hsum => ih _ hsum) (fun hfit => by omega)

end BtrfsVolume

/-! ## Partitions -/

namespace Partition

/-- A partition with room for the charges of the mountpoints on it. -/
def grown (sizes : PathMap Nat) (p : Partition) : Partition :=
  match p.payload with
  | none => p
  | some (.filesystem fs) => { p with size := max p.size (fs.mountpoint.elim 0 sizes.amount) }
  | some (.lvm group) =>
    { p with payload := some (.lvm
        { group with logicalVolumes := group.logicalVolumes.map (·.grown sizes) }) }
  | some (.btrfs volume) =>
    { p with size := max p.size (BtrfsVolume.chargeOf sizes volume.subvolumes) }

/-- Growing changes sizes only. -/
lemma mountpoints_grown (sizes : PathMap Nat) (p : Partition) :
    (p.grown sizes).mountpoints = p.mountpoints := by
  rw [grown]
  rcases hp : p.payload with _ | ⟨fs | group | volume⟩
  · rfl
  · simp only [mountpoints, hp]
  · simp only [mountpoints, hp, Option.elim_some, Payload.mountpoints, List.filterMap_map]
    rfl
  · simp only [mountpoints, hp]

lemma mounts_grown (p : Partition) (sizes : PathMap Nat) (mountpoint : String) :
    (p.grown sizes).mounts mountpoint = p.mounts mountpoint := by
  rw [mounts, mountpoints_grown, mounts]

/-- Whether all that is computed to grow a partition fits on a disk. -/
def GrowthFits (sizes : PathMap Nat) (p : Partition) : Prop :=
  match p.payload with
  | some (.lvm group) =>
    ∀ v ∈ group.logicalVolumes, roundUp (v.charge sizes) VolumeGroup.extent < limit
  | some (.btrfs volume) => BtrfsVolume.chargeOf sizes volume.subvolumes < limit
  | _ => True

lemma exact_growTo (sizes : PathMap Nat) (p : Partition) :
    Exact (p.growTo sizes).toExcept (p.GrowthFits sizes) (p.grown sizes) := by
  rw [growTo, GrowthFits, grown]
  rcases hp : p.payload with _ | ⟨fs | group | volume⟩
  · exact .ok trivial
  · -- without a charge the size is the maximum with zero
    have hkept : { p with size := max p.size 0 } = p := by rw [Nat.max_zero]
    rw [hp] at hkept
    dsimp only
    rcases fs.mountpoint with _ | mountpoint
    · rw [Option.elim_none, hkept]
      exact .ok trivial
    · rw [Option.bind_some, Option.elim_some, PathMap.amount]
      rcases sizes.get? mountpoint with _ | least
      · rw [Option.getD_none, hkept]
        exact .ok trivial
      · exact .ok trivial
  · dsimp only
    rw [Grown.toExcept_map, Grown.toExcept_each]
    exact (Exact.mapM fun v _ => v.exact_growTo sizes).map _
  · dsimp only
    rw [Grown.toExcept_attempt]
    have hneeds := BtrfsVolume.exact_addNeeds sizes 0 volume.subvolumes Size.limit_pos
    rw [Nat.zero_add] at hneeds
    exact hneeds.map _

lemma size_le_room (p : Partition) : p.size ≤ p.room :=
  Nat.le_trans (Nat.le_max_left _ _) p.max_le_room

lemma need_le_room (p : Partition) : p.need ≤ p.room :=
  Nat.le_trans (Nat.le_max_right _ _) p.max_le_room

variable {sizes : PathMap Nat} {p : Partition}

/-- A grown volume is a part of the room of its partition. -/
lemma grown_size_le_room (sizes : PathMap Nat) {group : VolumeGroup} {v : LogicalVolume}
    (hp : p.payload = some (.lvm group)) (hv : v ∈ group.logicalVolumes) :
    (v.grown sizes).size ≤ (p.grown sizes).room := by
  have hgrown : (v.grown sizes).size ≤
      VolumeGroup.volumesNeed (group.logicalVolumes.map (·.grown sizes)) :=
    VolumeGroup.size_le_volumesNeed (List.mem_map_of_mem hv)
  have hneed : (p.grown sizes).need = VolumeGroup.metadata
      + VolumeGroup.volumesNeed (group.logicalVolumes.map (·.grown sizes)) := by
    rw [grown, hp]
    rfl
  have hroom := (p.grown sizes).need_le_room
  omega

lemma charge_le_room {group : VolumeGroup} {v : LogicalVolume}
    (hp : p.payload = some (.lvm group)) (hv : v ∈ group.logicalVolumes) :
    roundUp (v.charge sizes) VolumeGroup.extent ≤ (p.grown sizes).room :=
  Nat.le_trans (Nat.le_max_right v.size _) (grown_size_le_room sizes hp hv)

lemma chargeOf_le_room {volume : BtrfsVolume} (hp : p.payload = some (.btrfs volume)) :
    BtrfsVolume.chargeOf sizes volume.subvolumes ≤ (p.grown sizes).room := by
  have hroom := (p.grown sizes).size_le_room
  have hsize : (p.grown sizes).size =
      max p.size (BtrfsVolume.chargeOf sizes volume.subvolumes) := by
    rw [grown, hp]
  omega

/-- What is computed to grow a partition is a part of its room in the end. -/
lemma growthFits_of_room (h : (p.grown sizes).room < limit) : p.GrowthFits sizes := by
  rw [GrowthFits]
  rcases hp : p.payload with _ | ⟨fs | group | volume⟩
  · trivial
  · trivial
  · intro v hv
    have hle : _ ≤ (p.grown sizes).room := charge_le_room hp hv
    omega
  · exact Nat.lt_of_le_of_lt (chargeOf_le_room hp) h

/-- The charge of a mountpoint is a part of the room of the partition that it is on. -/
lemma amount_le_room {k : String} (h : k ∈ p.mountpoints) :
    sizes.amount k ≤ (p.grown sizes).room := by
  rw [mountpoints] at h
  rcases hp : p.payload with _ | ⟨fs | group | volume⟩
  · simp [hp] at h
  · have hfs : fs.mountpoint = some k := by simpa [hp, Payload.mountpoints] using h
    have hsize : (p.grown sizes).size = max p.size (sizes.amount k) := by
      rw [grown, hp]
      simp [hfs]
    have hroom := (p.grown sizes).size_le_room
    omega
  · rw [hp, Option.elim_some, Payload.mountpoints, List.mem_filterMap] at h
    obtain ⟨v, hv, hmountpoint⟩ := h
    have hcharge : v.charge sizes = sizes.amount k := by
      rw [LogicalVolume.charge, hmountpoint, Option.elim_some]
    have hround := Size.le_roundUp (v.charge sizes) VolumeGroup.extent_pos
    have hle : _ ≤ (p.grown sizes).room := charge_le_room hp hv
    omega
  · rw [hp, Option.elim_some, Payload.mountpoints, List.mem_map] at h
    obtain ⟨s, hs, rfl⟩ := h
    have hcharge : sizes.amount s.mountpoint ≤ BtrfsVolume.chargeOf sizes volume.subvolumes :=
      Size.le_total (fun s => sizes.amount s.mountpoint) hs
    exact Nat.le_trans hcharge (chargeOf_le_room hp)

end Partition

/-! ## Tables -/

namespace Table

/-- The table with every partition grown to the given sizes. -/
def grownTo (t : Table) (sizes : PathMap Nat) : Table :=
  { t with partitions := t.partitions.map (·.grown sizes) }

/-- What each mountpoint of a table has to hold. -/
def chargesOf (t : Table) (required : PathMap Nat) : PathMap Nat :=
  chargeAll t.mountpoints .empty required.entries

/-- The table grown so that its mountables can hold the directories with the given sizes. -/
def grown (t : Table) (required : PathMap Nat) : Table := t.grownTo (t.chargesOf required)

lemma type_grown (t : Table) (required : PathMap Nat) : (t.grown required).type = t.type := rfl

lemma partitions_grown (t : Table) (required : PathMap Nat) :
    (t.grown required).partitions = t.partitions.map (·.grown (t.chargesOf required)) := rfl

/-- Whether all that is computed to grow a table fits on a disk. -/
def GrowthFits (t : Table) (required : PathMap Nat) : Prop :=
  (∀ k, (t.chargesOf required).amount k < limit)
    ∧ ∀ p ∈ t.partitions, p.GrowthFits (t.chargesOf required)

lemma exact_growMountpoints (t : Table) (sizes : PathMap Nat) :
    Exact (t.growMountpoints sizes).toExcept (∀ p ∈ t.partitions, p.GrowthFits sizes)
      (t.grownTo sizes) := by
  rw [growMountpoints, Grown.toExcept_map, Grown.toExcept_each]
  exact (Exact.mapM fun p _ => p.exact_growTo sizes).map _

lemma exact_charges (t : Table) (required : PathMap Nat) :
    Exact (t.charges required) (∀ k, (t.chargesOf required).amount k < limit)
      (t.chargesOf required) := by
  rw [charges, t.map_mountpoint_mountables]
  exact exact_addCharges fun k => Size.limit_pos

lemma exact_growDirectories (t : Table) (required : PathMap Nat) :
    Exact (t.growDirectories required).toExcept (t.GrowthFits required) (t.grown required) := by
  have hsteps : (t.growDirectories required).toExcept =
      t.charges required >>= fun charges => (t.growMountpoints charges).toExcept := by
    rw [growDirectories]
    rcases t.charges required with fault | charges
    · rfl
    · rfl
  rw [hsteps]
  refine (t.exact_charges required).bind (fun hfit => ?_) (fun hfit => hfit.1)
  exact (t.exact_growMountpoints _).congr ⟨fun h => ⟨hfit, h⟩, fun h => h.2⟩

/-- When a grown table fits on a disk, so does all that was computed to grow it. -/
lemma growthFits_of_settledSize {t : Table} {required : PathMap Nat} {minimum : Nat}
    (h : (t.grown required).settledSize minimum < limit) : t.GrowthFits required := by
  have hroom : ∀ p ∈ t.partitions, (p.grown (t.chargesOf required)).room < limit := by
    intro p hp
    refine Nat.lt_of_le_of_lt (room_le_settledSize ?_ minimum) h
    exact List.mem_map_of_mem hp
  refine ⟨fun k => ?_, fun p hp => Partition.growthFits_of_room (hroom p hp)⟩
  -- what is charged at all is charged to a mountpoint of the table, so a partition has room for it
  by_cases hk : (t.chargesOf required).amount k = 0
  · rw [hk]
    exact Size.limit_pos
  · have hmem : k ∈ t.mountpoints := mem_of_chargeAll (fun j hj => absurd rfl hj) hk
    obtain ⟨p, hp, hkp⟩ := List.mem_flatMap.mp hmem
    exact Nat.lt_of_le_of_lt (Partition.amount_le_room hkp) (hroom p hp)

/-- Placing a table that may grow is exact. -/
lemma exact_allocate {t : Table} (hf : t.finalized = false)
    (hs : isSectorSize t.sectorSize = true) (minimum : Nat) :
    Exact (t.allocate minimum .grow) (t.settledSize minimum < limit) (t.laidOut minimum) := by
  have hsmall : ¬ t.IsTooSmall minimum .grow := fun h => by cases h.2.2
  constructor
  · intro hfit
    exact allocate_eq_ok_iff.mpr ⟨hf, hs, hfit, hsmall, rfl⟩
  · intro hfit
    obtain ⟨requested, hr⟩ := run_of_overflow .grow hf hs hfit
    exact ⟨requested, by rw [allocate, hr]; rfl⟩

/-- **Growing a table and placing it is exact arithmetic.**  It is refused only when the grown table
in its place reaches the limit of a disk. -/
lemma exact_growAndAllocate {t : Table} (hf : t.finalized = false)
    (hs : isSectorSize t.sectorSize = true) (required : PathMap Nat) (minimum : Nat) :
    Exact ((t.growDirectories required).toExcept >>= fun grown => grown.allocate minimum .grow)
      ((t.grown required).settledSize minimum < limit)
      ((t.grown required).laidOut minimum) := by
  refine (t.exact_growDirectories required).bind (fun _ => ?_) growthFits_of_settledSize
  exact exact_allocate (t := t.grown required) hf hs minimum

end Table
end DiskPlan
