import DiskPlan.Mountable
import DiskPlan.Proofs.Allocation.Layout
import DiskPlan.Proofs.Identification.Filled
import DiskPlan.Table.Growth

/-!
# Mountpoints that are kept

The mountpoints of a table are those of its partitions, in order.  No step of a plan adds, drops or
renames one: growing and identification keep the list, and allocation keeps it up to the order of
the partitions.
-/
namespace DiskPlan

/-! ## The mountpoints of mountables -/

/-- The mountpoints of what a table holds, in the order of the disk. -/
def Table.mountpoints (t : Table) : List String := t.partitions.flatMap (·.mountpoints)

lemma VolumeGroup.map_mountpoint_mountables (p : Partition) (g : VolumeGroup)
    (vs : List LogicalVolume) :
    ((vs.filter (·.payload.mountpoint.isSome)).map (Mountable.logicalVolume p g)).map
      (·.mountpoint) = vs.filterMap (·.payload.mountpoint) := by
  induction vs with
  | nil => rfl
  | cons v vs ih =>
    rcases h : v.payload.mountpoint with _ | mountpoint
    · simpa [h] using ih
    · simpa [h, Mountable.mountpoint] using ih

lemma Partition.map_mountpoint_mountables (p : Partition) :
    p.mountables.map (·.mountpoint) = p.mountpoints := by
  rw [mountables, mountpoints]
  rcases p.payload with _ | ⟨fs | group | volume⟩
  · rfl
  · rcases h : fs.mountpoint with _ | mountpoint
    · simp [h, Payload.mountpoints]
    · simp [h, Payload.mountpoints, Mountable.mountpoint]
  · exact VolumeGroup.map_mountpoint_mountables p group group.logicalVolumes
  · simp [Payload.mountpoints, Mountable.mountpoint]

lemma Table.map_mountpoint_mountables (t : Table) :
    t.mountables.map (·.mountpoint) = t.mountpoints := by
  rw [mountables, List.map_flatMap, mountpoints]
  simp only [Partition.map_mountpoint_mountables]

lemma Table.find?_isSome_iff (t : Table) (mountpoint : String) :
    (t.find? mountpoint).isSome ↔ mountpoint ∈ t.mountpoints := by
  rw [find?, List.find?_isSome, ← t.map_mountpoint_mountables, List.mem_map]
  simp

/-! ## Allocation -/

/-- A reported size leaves the mountpoints of the subvolumes alone. -/
lemma BtrfsVolume.map_mountpoint_reportSize (v : BtrfsVolume) (size : Nat) :
    (v.reportSize size).subvolumes.map (·.mountpoint) = v.subvolumes.map (·.mountpoint) := by
  rw [reportSize]
  rcases v.primary? with _ | i
  · rfl
  · apply List.ext_getElem
    · simp
    · intro j hj hj'
      simp only [List.getElem_map, List.getElem_modify]
      split
      · rfl
      · rfl

@[simp] lemma Partition.mountpoints_reportSize (p : Partition) :
    p.reportSize.mountpoints = p.mountpoints := by
  rw [reportSize]
  split
  · next volume h =>
    simp only [mountpoints, h, Option.elim_some, Payload.mountpoints]
    exact volume.map_mountpoint_reportSize p.size
  · rfl

lemma Partition.IsPlacementOf.mountpoints_eq {q p : Partition} (h : IsPlacementOf q p) :
    q.mountpoints = p.mountpoints := by
  rw [h.eq, mountpoints_reportSize]
  rfl

lemma flatMap_mountpoints_eq {qs ps : List Partition}
    (h : List.Forall₂ Partition.IsPlacementOf qs ps) :
    qs.flatMap (·.mountpoints) = ps.flatMap (·.mountpoints) := by
  induction h with
  | nil => rfl
  | cons hq _ ih => rw [List.flatMap_cons, List.flatMap_cons, hq.mountpoints_eq, ih]

lemma Table.IsSoundLayout.mountpoints_perm {t t' : Table} {minimum : Nat}
    (h : IsSoundLayout t' t minimum) : t'.mountpoints.Perm t.mountpoints := by
  obtain ⟨declared, hperm, hplaced⟩ := h.placements
  rw [mountpoints, flatMap_mountpoints_eq hplaced]
  exact hperm.flatMap_right _

/-- Allocation reorders the mountpoints at most. -/
lemma Table.mountpoints_perm_of_allocate {t t' : Table} {minimum : Nat} {mode : SizingMode}
    (h : t.allocate minimum mode = .ok t') : t'.mountpoints.Perm t.mountpoints := by
  obtain ⟨-, hs, hfit, -, rfl⟩ := allocate_eq_ok_iff.mp h
  exact (isSoundLayout_laidOut hs hfit).mountpoints_perm

/-! ## Growth -/

namespace Grown

variable {α β γ : Type}

lemma value_map (f : α → β) (g : Grown α) : (g.map f).value = f g.value := rfl

/-- What every growth of a value keeps an attempt keeps, whether it fails or not. -/
lemma view_attempt {a : α} (view : α → γ) (f : β → α) (h : ∀ b, view (f b) = view a)
    (r : Except PlanError β) : view (attempt a (r.map f)).value = view a := by
  rcases r with fault | b
  · rfl
  · exact h b

/-- What growing keeps of each value it keeps of a list, also when it stops at a fault. -/
lemma map_value_each {grow : α → Grown α} {view : α → γ}
    (h : ∀ a, view (grow a).value = view a) (as : List α) :
    (each grow as).value.map view = as.map view := by
  induction as with
  | nil => rfl
  | cons a as ih =>
    have ha := h a
    rw [each]
    rcases hgrow : grow a with ⟨value, _ | fault⟩
    · rw [hgrow] at ha
      rw [value_map, List.map_cons, List.map_cons, ih, ← ha]
    · rw [hgrow] at ha
      rw [List.map_cons, List.map_cons, ← ha]

/-- A value grown without a fault is the value of the growth. -/
lemma value_eq_of_toExcept {g : Grown α} {a : α} (h : g.toExcept = .ok a) : g.value = a := by
  rcases g with ⟨value, _ | fault⟩
  · exact Except.ok.inj h
  · cases h

end Grown

lemma LogicalVolume.payload_growTo (sizes : PathMap Nat) (v : LogicalVolume) :
    (v.growTo sizes).value.payload = v.payload := by
  rw [growTo]
  split
  · rfl
  · refine Grown.view_attempt payload _ (fun rounded => ?_) _
    rfl

lemma Partition.mountpoints_growTo (sizes : PathMap Nat) (p : Partition) :
    (p.growTo sizes).value.mountpoints = p.mountpoints := by
  rw [growTo]
  rcases h : p.payload with _ | ⟨fs | group | volume⟩
  · rfl
  · dsimp only
    split
    · rfl
    · simp [Grown.done, mountpoints, h]
  · have hpayload := Grown.map_value_each (fun v => v.payload_growTo sizes) group.logicalVolumes
    simp only [mountpoints, h, Grown.value_map, Option.elim_some, Payload.mountpoints]
    have hmap := congrArg (List.filterMap (·.mountpoint)) hpayload
    rwa [List.filterMap_map, List.filterMap_map] at hmap
  · exact Grown.view_attempt mountpoints _ (fun _ => by simp [mountpoints, h]) _

lemma Table.mountpoints_growMountpoints (t : Table) (sizes : PathMap Nat) :
    (t.growMountpoints sizes).value.mountpoints = t.mountpoints := by
  have hmap := Grown.map_value_each (Partition.mountpoints_growTo sizes) t.partitions
  rw [growMountpoints, Grown.value_map, mountpoints, mountpoints, List.flatMap_def,
    List.flatMap_def]
  exact congrArg List.flatten hmap

/-- Growing changes sizes only. -/
lemma Table.mountpoints_of_growDirectories {t t' : Table} {required : PathMap Nat}
    (h : (t.growDirectories required).toExcept = .ok t') : t'.mountpoints = t.mountpoints := by
  rw [← Grown.value_eq_of_toExcept h, growDirectories]
  split
  · rfl
  · exact t.mountpoints_growMountpoints _

/-! ## Identification -/

lemma VolumeGroup.IsIdentificationOf.map_mountpoint_eq {g' g : VolumeGroup}
    (h : g'.IsIdentificationOf g) :
    g'.logicalVolumes.map (·.payload.mountpoint) = g.logicalVolumes.map (·.payload.mountpoint) := by
  refine map_eq_of_forall₂ (fun v' v hv => ?_) h.volumes
  obtain ⟨-, id, hfs⟩ := hv
  rw [hfs]

lemma Payload.IsIdentificationOf.mountpoints_eq {payload' payload : Payload}
    (h : payload'.IsIdentificationOf payload) : payload'.mountpoints = payload.mountpoints := by
  cases h with
  | filesystem hfs =>
    obtain ⟨id, rfl⟩ := hfs
    rfl
  | lvm hg =>
    have hfilter := congrArg (List.filterMap id) hg.map_mountpoint_eq
    rwa [List.filterMap_map, List.filterMap_map] at hfilter
  | btrfs hv =>
    obtain ⟨id, rfl⟩ := hv
    exact List.map_map

lemma Partition.IsIdentificationOf.mountpoints_eq {type : TableType} {p' p : Partition}
    (h : p'.IsIdentificationOf type p) : p'.mountpoints = p.mountpoints := by
  rw [mountpoints, mountpoints]
  rcases h.payload_cases with ⟨hnone', hnone⟩ | ⟨payload', payload, hsome', hsome, hid⟩
  · rw [hnone', hnone]
  · rw [hsome', hsome, Option.elim_some, Option.elim_some, hid.mountpoints_eq]

lemma Table.IsIdentificationOf.mountpoints_eq {t' t : Table} (h : t'.IsIdentificationOf t) :
    t'.mountpoints = t.mountpoints := by
  have hmap := map_eq_of_forall₂ (fun p' p hp => hp.mountpoints_eq) h.partitions
  rw [mountpoints, mountpoints, List.flatMap_def, List.flatMap_def, hmap]

/-- Identification changes identifiers only. -/
lemma Table.mountpoints_identify (t : Table) (s : ByteStream) :
    (t.identify.run s).1.mountpoints = t.mountpoints :=
  (t.isIdentificationOf_identify s).mountpoints_eq

end DiskPlan
