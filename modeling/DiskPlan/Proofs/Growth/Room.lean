import DiskPlan.Proofs.Growth.Exact

/-!
# Room for what is needed

What it means that a partition has room for needs that are given for mountpoints: a plain filesystem
fills its partition, a logical volume has its need in whole extents, and the subvolumes of a btrfs
volume share their partition.  Growing to some sizes makes room for them, takes no room from
anything else, and changes nothing that has room already.
-/
namespace DiskPlan

open Size (roundUp)

namespace LogicalVolume

/-- Whether a volume has the size that is needed at its mountpoint, in whole extents. -/
def HasRoom (need : String → Nat) (v : LogicalVolume) : Prop :=
  roundUp (v.payload.mountpoint.elim 0 need) VolumeGroup.extent ≤ v.size

instance (need : String → Nat) (v : LogicalVolume) : Decidable (v.HasRoom need) :=
  inferInstanceAs (Decidable (_ ≤ _))

variable {sizes : PathMap Nat} {need need' : String → Nat} {v : LogicalVolume}

lemma hasRoom_grown (sizes : PathMap Nat) (v : LogicalVolume) :
    (v.grown sizes).HasRoom sizes.amount := Nat.le_max_right _ _

lemma HasRoom.grown (h : v.HasRoom need) (sizes : PathMap Nat) : (v.grown sizes).HasRoom need :=
  Nat.le_trans h (Nat.le_max_left _ _)

lemma HasRoom.mono (h : v.HasRoom need) (hle : ∀ k ∈ v.payload.mountpoint, need' k ≤ need k) :
    v.HasRoom need' := by
  refine Nat.le_trans (Size.roundUp_mono VolumeGroup.extent_pos ?_) h
  rcases hv : v.payload.mountpoint with _ | mountpoint
  · exact Nat.le_refl _
  · exact hle mountpoint hv

lemma HasRoom.le_size (h : v.HasRoom need) {k : String} (hk : v.payload.mountpoint = some k) :
    need k ≤ v.size := by
  rw [HasRoom, hk, Option.elim_some] at h
  exact Nat.le_trans (Size.le_roundUp _ VolumeGroup.extent_pos) h

lemma grown_eq_self_iff : v.grown sizes = v ↔ v.HasRoom sizes.amount := by
  have hsize : (v.grown sizes).size = max v.size (roundUp (v.charge sizes) VolumeGroup.extent) :=
    rfl
  constructor
  · intro h
    rw [h] at hsize
    have hle : roundUp (v.charge sizes) VolumeGroup.extent ≤ v.size := by omega
    exact hle
  · intro h
    have hle : roundUp (v.charge sizes) VolumeGroup.extent ≤ v.size := h
    rw [LogicalVolume.grown, Nat.max_eq_left hle]

end LogicalVolume

namespace Partition

/-- Whether a partition has room for what is needed at the mountpoints on it. -/
def HasRoom (need : String → Nat) (p : Partition) : Prop :=
  match p.payload with
  | none => True
  | some (.filesystem fs) => fs.mountpoint.elim 0 need ≤ p.size
  | some (.lvm group) => ∀ v ∈ group.logicalVolumes, v.HasRoom need
  | some (.btrfs volume) => Size.total (fun s => need s.mountpoint) volume.subvolumes ≤ p.size

instance (need : String → Nat) (p : Partition) : Decidable (p.HasRoom need) :=
  match h : p.payload with
  | none => isTrue (by rw [HasRoom, h]; trivial)
  | some (.filesystem fs) =>
    decidable_of_iff (fs.mountpoint.elim 0 need ≤ p.size) (by rw [HasRoom, h])
  | some (.lvm group) =>
    decidable_of_iff (∀ v ∈ group.logicalVolumes, v.HasRoom need) (by rw [HasRoom, h])
  | some (.btrfs volume) =>
    decidable_of_iff (Size.total (fun s => need s.mountpoint) volume.subvolumes ≤ p.size)
      (by rw [HasRoom, h])

variable {sizes : PathMap Nat} {need need' : String → Nat} {p : Partition}

lemma hasRoom_grown (sizes : PathMap Nat) (p : Partition) :
    (p.grown sizes).HasRoom sizes.amount := by
  rw [grown]
  rcases hp : p.payload with _ | ⟨fs | group | volume⟩
  · simp [HasRoom, hp]
  · simp only [HasRoom]
    exact Nat.le_max_right _ _
  · intro v hv
    obtain ⟨w, -, rfl⟩ := List.mem_map.mp hv
    exact w.hasRoom_grown sizes
  · simp only [HasRoom]
    exact Nat.le_max_right _ _

lemma HasRoom.grown (h : p.HasRoom need) (sizes : PathMap Nat) : (p.grown sizes).HasRoom need := by
  rw [Partition.grown]
  rw [HasRoom] at h
  rcases hp : p.payload with _ | ⟨fs | group | volume⟩
  · simp [HasRoom, hp]
  · simp only [hp] at h
    simp only [HasRoom]
    exact Nat.le_trans h (Nat.le_max_left _ _)
  · simp only [hp] at h
    intro v hv
    obtain ⟨w, hw, rfl⟩ := List.mem_map.mp hv
    exact (h w hw).grown sizes
  · simp only [hp] at h
    simp only [HasRoom]
    exact Nat.le_trans h (Nat.le_max_left _ _)

/-- Only the needs of the mountpoints on a partition count. -/
lemma HasRoom.mono (h : p.HasRoom need) (hle : ∀ k ∈ p.mountpoints, need' k ≤ need k) :
    p.HasRoom need' := by
  rw [mountpoints] at hle
  rw [HasRoom] at *
  rcases hp : p.payload with _ | ⟨fs | group | volume⟩
  · trivial
  · simp only [hp, Option.elim_some, Payload.mountpoints] at h hle ⊢
    refine Nat.le_trans ?_ h
    rcases hfs : fs.mountpoint with _ | mountpoint
    · exact Nat.le_refl _
    · exact hle mountpoint (by simp [hfs])
  · simp only [hp, Option.elim_some, Payload.mountpoints] at h hle ⊢
    intro v hv
    exact (h v hv).mono fun k hk => hle k (List.mem_filterMap.mpr ⟨v, hv, hk⟩)
  · simp only [hp, Option.elim_some, Payload.mountpoints] at h hle ⊢
    refine Nat.le_trans (Size.total_mono fun s hs => ?_) h
    exact hle s.mountpoint (List.mem_map_of_mem hs)

/-- Growing leaves just those partitions alone that have room already. -/
lemma grown_eq_self_iff : p.grown sizes = p ↔ p.HasRoom sizes.amount := by
  constructor
  · intro h
    rw [← h]
    exact p.hasRoom_grown sizes
  · intro h
    rw [grown]
    rw [HasRoom] at h
    rcases hp : p.payload with _ | ⟨fs | group | volume⟩
    · rfl
    · simp only [hp] at h ⊢
      rw [Nat.max_eq_left h, ← hp]
    · simp only [hp] at h ⊢
      have hsame : group.logicalVolumes.map (·.grown sizes) = group.logicalVolumes := by
        conv_rhs => rw [← List.map_id group.logicalVolumes]
        exact List.map_congr_left fun v hv => LogicalVolume.grown_eq_self_iff.mpr (h v hv)
      rw [hsame, ← hp]
    · simp only [hp] at h ⊢
      have hle : BtrfsVolume.chargeOf sizes volume.subvolumes ≤ p.size := h
      rw [Nat.max_eq_left hle, ← hp]

end Partition
end DiskPlan
