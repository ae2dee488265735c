import DiskPlan.Proofs.Customization.Validation
import DiskPlan.Proofs.Mountpoints.Kept
import DiskPlan.Proofs.Mountpoints.Requested
import DiskPlan.Proofs.Plan.Steps
import Mathlib.Data.List.Nodup

/-!
# Which mountpoints can occur twice

The mountpoints of a finished table come from the EFI system partition, the `/boot` that is added,
the customization and the root that is added.  The two additions are made only where nothing else is
mounted, and the customization itself is checked for repeats; the EFI system partition is not
checked against the customization.  So `/boot/efi` is the one mountpoint that can occur twice
(`plan_mountpoints_nodup_iff`).
-/
namespace DiskPlan

variable {defaultType : FsType}

namespace Customization

variable {c : Customization} {options : Options}

/-- The mountpoints before a root is added: what booting needs, and all that is asked for. -/
def plannedMountpoints (c : Customization) (bootMode : BootMode) : List String :=
  (if bootMode.needsEfi then ["/boot/efi"] else []) ++ (if c.requiresBoot then ["/boot"] else [])
    ++ c.mountpoints

lemma mountpoints_partitionsWith {groups : List Partition}
    (h : c.volumeGroups.mapM (·.partition options.effectiveTableType defaultType) = .ok groups) :
    (c.partitionsWith options defaultType groups).flatMap (·.mountpoints) =
      c.plannedMountpoints options.bootMode := by
  have hboot : (if c.requiresBoot then
      [Partition.boot options.effectiveTableType defaultType] else []).flatMap (·.mountpoints) =
      if c.requiresBoot then ["/boot"] else [] := by
    split
    · rw [List.flatMap_singleton, mountpoints_boot]
    · rfl
  have hplain : (c.plainFilesystems.map
      (·.partition options.effectiveTableType defaultType)).flatMap (·.mountpoints) =
      c.plainFilesystems.map (·.mountpoint) := by
    rw [List.flatMap_map, List.map_eq_flatMap]
    simp only [FilesystemRequest.mountpoints_partition]
  have hbtrfs : (c.btrfsVolumes.map (·.partition options.effectiveTableType)).flatMap
      (·.mountpoints) = c.subvolumeMountpoints := by
    simp [List.flatMap_map, BtrfsVolumeRequest.mountpoints_partition, subvolumeMountpoints]
  simp only [partitionsWith, List.flatMap_append, BootMode.mountpoints_partitions, hboot, hplain,
    mountpoints_of_mapM h, hbtrfs, plannedMountpoints, mountpoints, logicalMountpoints,
    List.append_assoc]

/-- A root is added where none is mounted. -/
lemma mountpoints_of_draft {drafted : Table} (h : c.draft options defaultType = .ok drafted) :
    drafted.mountpoints = c.plannedMountpoints options.bootMode
      ++ if "/" ∈ c.plannedMountpoints options.bootMode then [] else ["/"] := by
  obtain ⟨groups, hgroups, h⟩ := bind_eq_ok_iff.mp h
  obtain rfl := Except.ok.inj h
  have hplanned := mountpoints_partitionsWith hgroups
  rw [tableWith]
  simp only [Table.find?_isSome_iff, Table.mountpoints, hplanned]
  split
  · rw [hplanned, List.append_nil]
  · rw [Table.add, List.flatMap_append, hplanned, List.flatMap_singleton, mountpoints_defaultRoot]

/-! ## Distinct mountpoints -/

/-- The root that is added repeats nothing. -/
lemma nodup_mountpoints_of_draft_iff {drafted : Table}
    (h : c.draft options defaultType = .ok drafted) :
    drafted.mountpoints.Nodup ↔ (c.plannedMountpoints options.bootMode).Nodup := by
  rw [mountpoints_of_draft h]
  split
  · rw [List.append_nil]
  · next hfree =>
    rw [← List.concat_eq_append, List.nodup_concat]
    constructor
    · exact fun hall => hall.2
    · exact fun hplanned => ⟨hfree, hplanned⟩

/-- What booting needs is distinct from all that is asked for, but for the EFI system partition. -/
lemma nodup_plannedMountpoints_iff (h : c.mountpoints.Nodup) (bootMode : BootMode) :
    (c.plannedMountpoints bootMode).Nodup ↔
      ¬ (bootMode.needsEfi = true ∧ "/boot/efi" ∈ c.mountpoints) := by
  have hboot : c.requiresBoot = true → "/boot" ∉ c.mountpoints := by
    intro hrequires
    have hadded := hrequires
    simp only [requiresBoot, Bool.and_eq_true, Bool.not_eq_true'] at hadded
    simpa using hadded.1
  have hne : "/boot/efi" ≠ "/boot" := by decide
  rw [plannedMountpoints]
  rcases bootMode.needsEfi with _ | _
  · rcases hrequires : c.requiresBoot with _ | _
    · simpa using h
    · simpa [h] using hboot hrequires
  · rcases hrequires : c.requiresBoot with _ | _
    · simp [h]
    · have hnotin := hboot hrequires
      simp [h, hne, hnotin]

/-- **Only `/boot/efi` can be mounted twice.**  In a finished table no mountpoint occurs twice, but
when the boot mode adds an EFI system partition and the customization asks for `/boot/efi` as
well. -/
theorem plan_mountpoints_nodup_iff {c : Option Customization} {options : Options}
    {stream stream' : ByteStream} {t : Table} (h : plan c options stream = .ok (t, stream')) :
    (t.mountables.map (·.mountpoint)).Nodup ↔
      ¬ (options.bootMode.needsEfi = true ∧ "/boot/efi" ∈ (c.getD {}).mountpoints) := by
  obtain ⟨placed, hplaced, hresult⟩ := plan_eq_ok_iff.mp h
  obtain ⟨hvalid, defaultType, -, drafted, hdrafted, grown, hgrown, hallocated⟩ :=
    layOut_eq_ok_iff.mp hplaced
  have hidentified : t.mountpoints = placed.mountpoints := by
    have ht : t = (placed.identify.run stream).1 := congrArg Prod.fst hresult
    rw [ht, placed.mountpoints_identify]
  -- after the draft the mountpoints are reordered only
  have hperm : t.mountpoints.Perm drafted.mountpoints := by
    rw [hidentified, ← Table.mountpoints_of_growDirectories hgrown]
    exact Table.mountpoints_perm_of_allocate hallocated
  rw [Table.map_mountpoint_mountables, hperm.nodup_iff, nodup_mountpoints_of_draft_iff hdrafted]
  exact nodup_plannedMountpoints_iff (nodup_mountpoints_of_validate hvalid) options.bootMode

/-- A `/boot` that is asked for is mounted beside the EFI system partition, each once. -/
theorem plan_mountpoints_nodup_of_boot :
    ∃ t stream', plan (some (ofPlain [{ mountpoint := "/boot" }, { mountpoint := "/var" }]))
        { defaultFsType := some .xfs, bootMode := .hybrid } (.counting 0) = .ok (t, stream')
      ∧ (t.mountables.map (·.mountpoint)).Nodup := by
  refine ⟨_, _, rfl, ?_⟩
  exact (plan_mountpoints_nodup_iff
    (c := some (ofPlain [{ mountpoint := "/boot" }, { mountpoint := "/var" }]))
    (show plan _ { defaultFsType := some .xfs, bootMode := .hybrid } (.counting 0) = _
      from rfl)).mpr (by decide)

/-- A filesystem of its own at `/boot/efi` is mounted over the EFI system partition. -/
theorem exists_plan_efi_twice :
    ∃ t stream', plan (some (ofPlain [{ mountpoint := "/boot/efi" }]))
        { defaultFsType := some .ext4, bootMode := .uefi } (.counting 0) = .ok (t, stream')
      ∧ ¬ (t.mountables.map (·.mountpoint)).Nodup := by
  refine ⟨_, _, rfl, ?_⟩
  decide

end Customization
end DiskPlan
