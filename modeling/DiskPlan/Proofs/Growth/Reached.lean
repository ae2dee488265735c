import DiskPlan.Proofs.Growth.Owners
import DiskPlan.Proofs.Growth.Room
import DiskPlan.Proofs.Identification.Filled

/-!
# Sizes that reach the finished table

A partition with room for what is needed on it keeps that room up to the finished table: no later
step makes a partition or a volume smaller.  What the finished table tells for a mountpoint is the
size of what has the room, except that a subvolume can carry a size of its own.  Allocation
overwrites the one of the root; when no other subvolume carries one, every mountpoint is told a size
that is large enough (`exists_sizeOf_of_hasRoom`).
-/
namespace DiskPlan

open Size (limit)

variable {need : String → Nat}

/-! ## What subvolumes report -/

namespace BtrfsVolume

/-- The subvolumes but for the one that reports the size of the volume. -/
def others (v : BtrfsVolume) : List Subvolume :=
  match v.primary? with
  | some i => v.subvolumes.eraseIdx i
  | none => v.subvolumes

/-- Whether every subvolume reports the given size. -/
def Reports (size : Nat) (v : BtrfsVolume) : Prop := ∀ s ∈ v.subvolumes, s.size.getD size = size

lemma reports_reportSize {v : BtrfsVolume} (h : ∀ s ∈ v.others, s.size = none) (size : Nat) :
    (v.reportSize size).Reports size := by
  intro s hs
  rw [reportSize] at hs
  rw [others] at h
  rcases hprimary : v.primary? with _ | i
  · simp only [hprimary] at h hs
    rw [h s hs, Option.getD_none]
  · simp only [hprimary] at h hs
    -- the size is reported at `i`, and what stands at another place has none of its own
    obtain ⟨j, hj⟩ := List.getElem?_of_mem hs
    rw [List.getElem?_modify] at hj
    obtain ⟨s', hs', rfl⟩ := Option.map_eq_some_iff.mp hj
    by_cases hij : i = j
    · rw [if_pos hij]
      rfl
    · rw [if_neg hij]
      have hother : s' ∈ v.subvolumes.eraseIdx i :=
        List.mem_eraseIdx_iff_getElem?.mpr ⟨j, Ne.symm hij, hs'⟩
      rw [h s' hother, Option.getD_none]

end BtrfsVolume

namespace Partition

/-- Whether the subvolumes on a partition, but for the one that reports its size, carry no size. -/
def PresetsRootOnly (p : Partition) : Prop :=
  ∀ v, p.payload = some (.btrfs v) → ∀ s ∈ v.others, s.size = none

/-- Whether all subvolumes on a partition report its size. -/
def Reports (p : Partition) : Prop := ∀ v, p.payload = some (.btrfs v) → v.Reports p.size

/-! ## From partition to partition -/

section Placed

variable {p q : Partition}

lemma IsPlacementOf.hasRoom (hq : q.IsPlacementOf p) (h : p.HasRoom need) : q.HasRoom need := by
  have hsize := hq.declared_le
  rw [hq.eq, reportSize]
  rw [HasRoom] at *
  rcases hp : p.payload with _ | ⟨fs | group | volume⟩
  · trivial
  · simp only [hp] at h ⊢
    exact Nat.le_trans h hsize
  · simp only [hp] at h ⊢
    exact h
  · simp only [hp] at h ⊢
    have htotal := @Size.total_eq_of_map_eq _ need _ _ _ _
      (volume.map_mountpoint_reportSize q.size)
    rw [htotal]
    exact Nat.le_trans h hsize

lemma IsPlacementOf.reports (hq : q.IsPlacementOf p) (h : p.PresetsRootOnly) : q.Reports := by
  intro v hv
  rw [hq.eq, reportSize] at hv
  rcases hp : p.payload with _ | ⟨fs | group | volume⟩
  · simp [hp] at hv
  · simp [hp] at hv
  · simp [hp] at hv
  · simp only [hp, Option.some.injEq, Payload.btrfs.injEq] at hv
    rw [← hv]
    exact BtrfsVolume.reports_reportSize (h volume hp) q.size

lemma PresetsRootOnly.grown (h : p.PresetsRootOnly) (sizes : PathMap Nat) :
    (p.grown sizes).PresetsRootOnly := by
  intro v hv
  rw [Partition.grown] at hv
  rcases hp : p.payload with _ | ⟨fs | group | volume⟩
  · simp [hp] at hv
  · simp [hp] at hv
  · simp [hp] at hv
  · simp only [hp] at hv
    exact h v (hp.trans hv)

end Placed

section Identified

variable {type : TableType} {p' p : Partition}

lemma IsIdentificationOf.hasRoom (hp : p'.IsIdentificationOf type p) (h : p.HasRoom need) :
    p'.HasRoom need := by
  rw [HasRoom] at *
  rw [hp.size_eq]
  rcases hp.payload_cases with ⟨hnone', hnone⟩ | ⟨payload', payload, hsome', hsome, hid⟩
  · rw [hnone']
    trivial
  · simp only [hsome', hsome] at h ⊢
    cases hid with
    | filesystem hfs =>
      obtain ⟨id, rfl⟩ := hfs
      exact h
    | lvm hg =>
      refine forall_mem_of_forall₂ (fun v' v hv hroom => ?_) hg.volumes h
      obtain ⟨hv, id, hfs⟩ := hv
      rw [hv, LogicalVolume.HasRoom, hfs]
      exact hroom
    | btrfs hv =>
      obtain ⟨id, rfl⟩ := hv
      show Size.total _ (List.map _ _) ≤ _
      rw [Size.total_map]
      exact h

lemma IsIdentificationOf.reports (hp : p'.IsIdentificationOf type p) (h : p.Reports) :
    p'.Reports := by
  intro v' hv'
  rw [hp.size_eq]
  rcases hp.payload_cases with ⟨hnone', -⟩ | ⟨payload', payload, hsome', hsome, hid⟩
  · rw [hnone'] at hv'
    cases hv'
  · obtain rfl := Option.some.inj (hsome'.symm.trans hv')
    cases hid with
    | btrfs hv =>
      obtain ⟨id, rfl⟩ := hv
      intro s hs
      obtain ⟨s', hs', rfl⟩ := List.mem_map.mp hs
      exact h _ hsome s' hs'

end Identified

/-! ## What a mountpoint is told -/

/-- A mountable on a partition with room is told that it has what is needed. -/
lemma HasRoom.le_size_of_mem {p : Partition} (hroom : p.HasRoom need) (hreports : p.Reports)
    {m : Mountable} (hm : m ∈ p.mountables) : need m.mountpoint ≤ m.size := by
  rw [mountables] at hm
  rw [HasRoom] at hroom
  rcases hp : p.payload with _ | ⟨fs | group | volume⟩
  · simp [hp] at hm
  · simp only [hp] at hm hroom
    rcases hfs : fs.mountpoint with _ | mountpoint
    · simp [hfs] at hm
    · simp only [hfs, Option.isSome_some, if_true, List.mem_singleton, Option.elim_some]
        at hm hroom
      rw [hm, Mountable.mountpoint, Mountable.size, hfs]
      exact hroom
  · simp only [hp] at hm hroom
    obtain ⟨v, hv, rfl⟩ := List.mem_map.mp hm
    obtain ⟨hvolume, hmounted⟩ := List.mem_filter.mp hv
    obtain ⟨k, hk⟩ := Option.isSome_iff_exists.mp hmounted
    rw [Mountable.mountpoint, Mountable.size, hk]
    exact (hroom v hvolume).le_size hk
  · simp only [hp] at hm hroom
    obtain ⟨s, hs, rfl⟩ := List.mem_map.mp hm
    have hle : need s.mountpoint ≤ p.size :=
      Nat.le_trans (Size.le_total (fun s => need s.mountpoint) hs) hroom
    rw [Mountable.mountpoint, Mountable.size, hreports volume hp s hs]
    exact hle

end Partition

namespace Table

lemma exists_sizeOf_of_hasRoom {t : Table} (hroom : ∀ p ∈ t.partitions, p.HasRoom need)
    (hreports : ∀ p ∈ t.partitions, p.Reports) {k : String} (hk : k ∈ t.mountpoints) :
    ∃ size, t.sizeOf k = .ok size ∧ need k ≤ size := by
  have hsome : (t.find? k).isSome := by
    rw [find?, List.find?_isSome]
    rw [← t.map_mountpoint_mountables] at hk
    obtain ⟨m, hm, rfl⟩ := List.mem_map.mp hk
    exact ⟨m, hm, by simp⟩
  obtain ⟨m, hfind⟩ := Option.isSome_iff_exists.mp hsome
  refine ⟨m.size, by rw [sizeOf, hfind], ?_⟩
  -- the first mountable at `k` is on some partition, and each partition has room for its own
  have hmountpoint : m.mountpoint = k := by simpa using List.find?_some hfind
  obtain ⟨p, hp, hm⟩ := List.mem_flatMap.mp (List.mem_of_find?_eq_some hfind)
  rw [← hmountpoint]
  exact (hroom p hp).le_size_of_mem (hreports p hp) hm

/-! ## From the draft to the finished table -/

/-- `t` is the table `d` grown for directories, laid out and identified. -/
structure IsFinished (t d : Table) (required : PathMap Nat) (minimum : Nat) : Prop where
  /-- The layout fits on a disk. -/
  fits : (d.grown required).settledSize minimum < limit
  /-- Nothing but identifiers is added to it. -/
  identified : t.IsIdentificationOf ((d.grown required).laidOut minimum)

namespace IsFinished

variable {d t : Table} {required : PathMap Nat} {minimum : Nat}

lemma mountpoints_perm (h : t.IsFinished d required minimum) :
    t.mountpoints.Perm d.mountpoints := by
  have hgrown : (d.grown required).mountpoints = d.mountpoints := by
    rw [mountpoints, partitions_grown, List.flatMap_map, mountpoints]
    simp only [Partition.mountpoints_grown]
  rw [h.identified.mountpoints_eq, mountpoints,
    flatMap_mountpoints_eq (isPlacementOf_laidOut h.fits), ← hgrown]
  exact (perm_rootLast _).flatMap_right _

/-- What growth gives to each partition, and placement and identification keep, the finished table
has. -/
lemma forall_partitions (h : t.IsFinished d required minimum) {P Q R : Partition → Prop}
    (hgrown : ∀ p ∈ d.partitions, R (p.grown (d.chargesOf required)))
    (hplaced : ∀ q p, q.IsPlacementOf p → R p → Q q)
    (hidentified : ∀ p' p, p'.IsIdentificationOf d.type p → Q p → P p') :
    ∀ p ∈ t.partitions, P p := by
  have hR : ∀ p ∈ rootLast (d.grown required).partitions, R p := by
    intro q hq
    have hmem := (perm_rootLast _).mem_iff.mp hq
    rw [partitions_grown] at hmem
    obtain ⟨p, hp, rfl⟩ := List.mem_map.mp hmem
    exact hgrown p hp
  have hQ := forall_mem_of_forall₂ hplaced (isPlacementOf_laidOut h.fits) hR
  have hid := h.identified.partitions
  rw [type_laidOut] at hid
  exact forall_mem_of_forall₂ hidentified hid hQ

/-- Room in the draft is kept. -/
lemma hasRoom (h : t.IsFinished d required minimum)
    (hroom : ∀ p ∈ d.partitions, p.HasRoom need) : ∀ p ∈ t.partitions, p.HasRoom need :=
  h.forall_partitions (fun p hp => (hroom p hp).grown _) (fun _ _ hq hp => hq.hasRoom hp)
    fun _ _ hp hq => hp.hasRoom hq

/-- There is room for what is owed to the mountpoints of the finished table. -/
lemma hasRoom_owed (h : t.IsFinished d required minimum)
    (habs : ∀ e ∈ required.entries, Path.isAbsolute e.1 = true) :
    ∀ p ∈ t.partitions, p.HasRoom (owed t.mountpoints required) := by
  rw [owed_congr (fun m => h.mountpoints_perm.mem_iff), ← d.amount_chargesOf habs]
  exact h.forall_partitions (fun p _ => p.hasRoom_grown _) (fun _ _ hq hp => hq.hasRoom hp)
    fun _ _ hp hq => hp.hasRoom hq

lemma reports (h : t.IsFinished d required minimum)
    (hpresets : ∀ p ∈ d.partitions, p.PresetsRootOnly) : ∀ p ∈ t.partitions, p.Reports :=
  h.forall_partitions (fun p hp => (hpresets p hp).grown _) (fun _ _ hq hp => hq.reports hp)
    fun _ _ hp hq => hp.reports hq

end IsFinished

/-- A table has room for what the directories require: each mountpoint is told at least what is
owed to it, and a btrfs volume has what is owed to all its subvolumes together. -/
structure HoldsRequired (t : Table) (required : PathMap Nat) : Prop where
  /-- Every mountpoint is told what is owed to it. -/
  owed_le_sizeOf : ∀ m ∈ t.mountpoints,
    ∃ size, t.sizeOf m = .ok size ∧ owed t.mountpoints required m ≤ size
  /-- Subvolumes that share a volume have what is owed to them side by side. -/
  owed_le_btrfs : ∀ p ∈ t.partitions, ∀ volume, p.payload = some (.btrfs volume) →
    Size.total (fun s => owed t.mountpoints required s.mountpoint) volume.subvolumes ≤ p.size

lemma IsFinished.holdsRequired {d t : Table} {required : PathMap Nat} {minimum : Nat}
    (h : t.IsFinished d required minimum)
    (habs : ∀ e ∈ required.entries, Path.isAbsolute e.1 = true)
    (hpresets : ∀ p ∈ d.partitions, p.PresetsRootOnly) : t.HoldsRequired required := by
  have hroom := h.hasRoom_owed habs
  refine ⟨fun m hm => exists_sizeOf_of_hasRoom hroom (h.reports hpresets) hm, ?_⟩
  intro p hp volume hvolume
  have hp := hroom p hp
  rw [Partition.HasRoom, hvolume] at hp
  exact hp

end Table
end DiskPlan
