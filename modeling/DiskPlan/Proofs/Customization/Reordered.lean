import DiskPlan.Proofs.Customization.Validation
import DiskPlan.Proofs.Identification.Filled
import DiskPlan.Proofs.Size.Exact

/-!
# Reordered customizations

A customization is reordered when its plain filesystems are declared in another order, or the
subvolumes of a btrfs volume are.  The order of the volumes in a group is not touched, as their
names depend on it.  The structural rules look at what is there and at what occurs twice, so a
customization is accepted in any order when it is in one
(`Customization.IsReorderingOf.validate_iff`).
-/
namespace DiskPlan

/-! ## Reordered lists -/

section Lists

variable {α β : Type} {R : α → α → Prop} {as bs as' bs' : List α}

/-- `as` has the elements of `bs` in some order, each of them perhaps replaced by a related one. -/
def IsReordered (R : α → α → Prop) (as bs : List α) : Prop :=
  ∃ mid : List α, as.Perm mid ∧ List.Forall₂ R mid bs

namespace IsReordered

lemma of_perm (hR : ∀ a, R a a) (h : as.Perm bs) : IsReordered R as bs :=
  ⟨bs, h, List.forall₂_same.mpr fun a _ => hR a⟩

lemma of_forall₂ (h : List.Forall₂ R as bs) : IsReordered R as bs := ⟨as, .refl as, h⟩

lemma append (h : IsReordered R as bs) (h' : IsReordered R as' bs') :
    IsReordered R (as ++ as') (bs ++ bs') := by
  obtain ⟨mid, hperm, hmid⟩ := h
  obtain ⟨mid', hperm', hmid'⟩ := h'
  exact ⟨mid ++ mid', hperm.append hperm', List.rel_append hmid hmid'⟩

lemma length_eq (h : IsReordered R as bs) : as.length = bs.length := by
  obtain ⟨mid, hperm, hmid⟩ := h
  rw [hperm.length_eq, hmid.length_eq]

lemma filter {p : α → Bool} (hR : ∀ a b, R a b → p a = p b) (h : IsReordered R as bs) :
    IsReordered R (as.filter p) (bs.filter p) := by
  obtain ⟨mid, hperm, hmid⟩ := h
  refine ⟨mid.filter p, hperm.filter p, ?_⟩
  clear hperm
  induction hmid with
  | nil => exact .nil
  | cons hab _ ih =>
    rw [List.filter_cons, List.filter_cons, hR _ _ hab]
    split
    · exact .cons hab ih
    · exact ih

lemma total_eq {size : α → Nat} (hR : ∀ a b, R a b → size a = size b) (h : IsReordered R as bs) :
    Size.total size as = Size.total size bs := by
  obtain ⟨mid, hperm, hmid⟩ := h
  rw [Size.total_perm hperm]
  clear hperm
  induction hmid with
  | nil => rfl
  | cons hab _ ih => rw [Size.total_cons, Size.total_cons, hR _ _ hab, ih]

lemma forall_mem_iff {P : α → Prop} (hR : ∀ a b, R a b → (P a ↔ P b)) (h : IsReordered R as bs) :
    (∀ a ∈ as, P a) ↔ ∀ b ∈ bs, P b := by
  obtain ⟨mid, hperm, hmid⟩ := h
  simp only [hperm.mem_iff]
  exact ⟨forall_mem_of_forall₂ (fun b a hab => (hR a b hab).mp) hmid.flip,
    forall_mem_of_forall₂ (fun a b hab => (hR a b hab).mpr) hmid⟩

lemma flatMap_perm {f g : α → List β} (hR : ∀ a b, R a b → (f a).Perm (g b))
    (h : IsReordered R as bs) : (as.flatMap f).Perm (bs.flatMap g) := by
  obtain ⟨mid, hperm, hmid⟩ := h
  refine (hperm.flatMap_right f).trans ?_
  clear hperm
  induction hmid with
  | nil => exact .refl _
  | cons hab _ ih =>
    rw [List.flatMap_cons, List.flatMap_cons]
    exact (hR _ _ hab).append ih

end IsReordered

end Lists

/-! ## Reordered customizations -/

/-- `r'` is the request `r` with its subvolumes in some order. -/
structure BtrfsVolumeRequest.IsReorderingOf (r' r : BtrfsVolumeRequest) : Prop where
  minsize_eq : r'.minsize = r.minsize
  subvolumes_perm : r'.subvolumes.Perm r.subvolumes

/-- `c'` is the customization `c` with its plain filesystems in some order, and the subvolumes of
each btrfs volume in some order. -/
structure Customization.IsReorderingOf (c' c : Customization) : Prop where
  minsize_eq : c'.minsize = c.minsize
  plain : Option.Rel (fun p' p => p'.filesystems.Perm p.filesystems) c'.plain c.plain
  lvm_eq : c'.lvm = c.lvm
  btrfs : Option.Rel
    (fun b' b => List.Forall₂ BtrfsVolumeRequest.IsReorderingOf b'.volumes b.volumes)
    c'.btrfs c.btrfs

namespace Customization.IsReorderingOf

variable {c' c : Customization}

lemma plainFilesystems_perm (h : c'.IsReorderingOf c) :
    c'.plainFilesystems.Perm c.plainFilesystems := by
  have hplain := h.plain
  rw [plainFilesystems, plainFilesystems]
  generalize c'.plain = plain' at hplain ⊢
  generalize c.plain = plain at hplain ⊢
  cases hplain with
  | none => exact .refl _
  | some hperm => exact hperm

lemma volumeGroups_eq (h : c'.IsReorderingOf c) : c'.volumeGroups = c.volumeGroups := by
  rw [volumeGroups, volumeGroups, h.lvm_eq]

lemma btrfsVolumes (h : c'.IsReorderingOf c) :
    List.Forall₂ BtrfsVolumeRequest.IsReorderingOf c'.btrfsVolumes c.btrfsVolumes := by
  have hbtrfs := h.btrfs
  rw [Customization.btrfsVolumes, Customization.btrfsVolumes]
  generalize c'.btrfs = btrfs' at hbtrfs ⊢
  generalize c.btrfs = btrfs at hbtrfs ⊢
  cases hbtrfs with
  | none => exact .nil
  | some hvolumes => exact hvolumes

lemma logicalMountpoints_eq (h : c'.IsReorderingOf c) :
    c'.logicalMountpoints = c.logicalMountpoints := by
  rw [logicalMountpoints, logicalMountpoints, h.volumeGroups_eq]

lemma subvolumeMountpoints_perm (h : c'.IsReorderingOf c) :
    c'.subvolumeMountpoints.Perm c.subvolumeMountpoints := by
  refine IsReordered.flatMap_perm (R := BtrfsVolumeRequest.IsReorderingOf) (fun r' r hr => ?_)
    (.of_forall₂ h.btrfsVolumes)
  exact hr.subvolumes_perm.map _

lemma mountpoints_perm (h : c'.IsReorderingOf c) : c'.mountpoints.Perm c.mountpoints := by
  rw [mountpoints, mountpoints, h.logicalMountpoints_eq]
  exact ((h.plainFilesystems_perm.map _).append_right _).append h.subvolumeMountpoints_perm

end Customization.IsReorderingOf

/-! ## Acceptance -/

namespace BtrfsVolumeRequest.IsReorderingOf

variable {r' r : BtrfsVolumeRequest}

lemma emptyText?_eq (h : r'.IsReorderingOf r) : r'.emptyText? = r.emptyText? := by
  have hany (p : SubvolumeRequest → Bool) : r'.subvolumes.any p = r.subvolumes.any p := by
    rw [Bool.eq_iff_iff, List.any_eq_true, List.any_eq_true]
    simp only [h.subvolumes_perm.mem_iff]
  rw [emptyText?, emptyText?, hany, hany]

lemma repeatedName_eq_none_iff (h : r'.IsReorderingOf r) :
    r'.repeatedName = none ↔ r.repeatedName = none := by
  rw [repeatedName, repeatedName, firstRepeat_eq_none_iff, firstRepeat_eq_none_iff,
    (h.subvolumes_perm.map _).nodup_iff]

end BtrfsVolumeRequest.IsReorderingOf

namespace Customization

variable {c' c : Customization}

/-- A customization is accepted when it keeps each of the rules. -/
lemma validate_eq_ok_iff_rules : c.validate = .ok () ↔
    (c.btrfs.isSome && c.lvm.isSome) = false
      ∧ c.btrfsVolumes.length ≤ 1 ∧ c.volumeGroups.length ≤ 1
      ∧ (∀ r ∈ c.plainFilesystems, r.mountpoint ≠ "") ∧ "" ∉ c.logicalMountpoints
      ∧ (∀ v ∈ c.btrfsVolumes, v.emptyText? = none)
      ∧ (∀ g ∈ c.volumeGroups, g.repeatedName = none)
      ∧ (∀ v ∈ c.btrfsVolumes, v.repeatedName = none) ∧ c.mountpoints.Nodup := by
  rw [validate_eq_ok_iff, ← firstRepeat_eq_none_iff]
  simp [violations]

/-- No rule looks at an order. -/
lemma IsReorderingOf.validate_iff (h : c'.IsReorderingOf c) :
    c'.validate = .ok () ↔ c.validate = .ok () := by
  have hbtrfs : c'.btrfs.isSome = c.btrfs.isSome := by
    have hrel := h.btrfs
    generalize c'.btrfs = btrfs' at hrel ⊢
    generalize c.btrfs = btrfs at hrel ⊢
    cases hrel with
    | none => rfl
    | some _ => rfl
  have hvolumes : IsReordered BtrfsVolumeRequest.IsReorderingOf c'.btrfsVolumes c.btrfsVolumes :=
    .of_forall₂ h.btrfsVolumes
  have hempty := hvolumes.forall_mem_iff (P := fun v => v.emptyText? = none)
    fun v' v hv => by rw [hv.emptyText?_eq]
  have hnames := hvolumes.forall_mem_iff (P := fun v => v.repeatedName = none)
    fun v' v hv => hv.repeatedName_eq_none_iff
  rw [validate_eq_ok_iff_rules, validate_eq_ok_iff_rules, hbtrfs, h.lvm_eq, h.volumeGroups_eq,
    h.logicalMountpoints_eq, h.mountpoints_perm.nodup_iff, hvolumes.length_eq, hempty, hnames]
  simp only [h.plainFilesystems_perm.mem_iff]

end Customization
end DiskPlan
