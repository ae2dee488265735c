import DiskPlan.Layout.Custom
import DiskPlan.Proofs.Size.Exact

/-!
# What requests mount

Each partition of a draft mounts just what was asked for it: a plain filesystem one mountpoint, a
volume group those of its volumes and a btrfs volume those of its subvolumes, in document order.
-/
namespace DiskPlan

variable {type : TableType} {defaultType : FsType}

/-! ## What each request mounts -/

@[simp] lemma Filesystem.mountpoint_labelled (fs : Filesystem) (label : String) :
    (fs.labelled label).mountpoint = fs.mountpoint := by
  rw [labelled]
  split
  · rfl
  · rfl

/-- A plain filesystem is all that its partition mounts. -/
lemma Partition.mountpoints_plain (size : Nat) (mountpoint : String) (fs : Filesystem) :
    (plain type size mountpoint fs).mountpoints = fs.mountpoint.toList := rfl

lemma FilesystemRequest.mountpoint_filesystem (r : FilesystemRequest) :
    (r.filesystem defaultType).mountpoint = some r.mountpoint := by
  rw [filesystem, Filesystem.mountpoint_labelled]
  rfl

lemma FilesystemRequest.mountpoints_partition (r : FilesystemRequest) :
    (r.partition type defaultType).mountpoints = [r.mountpoint] := by
  rw [partition, Partition.mountpoints_plain, mountpoint_filesystem]
  rfl

lemma BtrfsVolumeRequest.mountpoints_partition (r : BtrfsVolumeRequest) :
    (r.partition type).mountpoints = r.subvolumes.map (·.mountpoint) := by
  show (r.subvolumes.map _).map _ = _
  rw [List.map_map]
  rfl

lemma mountpoints_boot : (Partition.boot type defaultType).mountpoints = ["/boot"] := by
  rw [Partition.boot, Partition.mountpoints_plain, Filesystem.mountpoint_labelled]
  rfl

lemma mountpoints_defaultRoot : (defaultRoot type defaultType).mountpoints = ["/"] := by
  rw [defaultRoot, Partition.mountpoints_plain, Filesystem.mountpoint_labelled]
  rfl

/-- Of the partitions that a boot mode needs only the EFI system partition is mounted. -/
lemma BootMode.mountpoints_partitions (mode : BootMode) :
    (mode.partitions type).flatMap (·.mountpoints) =
      if mode.needsEfi then ["/boot/efi"] else [] := by
  cases mode <;> rfl

/-! ## What volume groups mount -/

/-- A volume that is added comes last, with the filesystem that was asked for. -/
lemma LogicalVolumeRequest.payloads_of_addTo {r : LogicalVolumeRequest} {g g' : VolumeGroup}
    (h : r.addTo defaultType g = .ok g') :
    g'.logicalVolumes.map (·.payload) =
      g.logicalVolumes.map (·.payload) ++ [r.filesystem.filesystem defaultType] := by
  rw [addTo, VolumeGroup.create_eq] at h
  obtain ⟨volume, hvolume, h⟩ := bind_eq_ok_iff.mp h
  obtain ⟨name, -, hvolume⟩ := bind_eq_ok_iff.mp hvolume
  obtain ⟨size, -, hvolume⟩ := bind_eq_ok_iff.mp hvolume
  obtain rfl := Except.ok.inj h
  obtain rfl := Except.ok.inj hvolume
  exact List.map_append

lemma payloads_of_foldlM {rs : List LogicalVolumeRequest} {g g' : VolumeGroup}
    (h : rs.foldlM (fun group v => v.addTo defaultType group) g = .ok g') :
    g'.logicalVolumes.map (·.payload) =
      g.logicalVolumes.map (·.payload) ++ rs.map (·.filesystem.filesystem defaultType) := by
  induction rs generalizing g with
  | nil =>
    obtain rfl := Except.ok.inj h
    simp
  | cons r rs ih =>
    rw [List.foldlM_cons] at h
    obtain ⟨middle, hadd, htail⟩ := bind_eq_ok_iff.mp h
    rw [ih htail, LogicalVolumeRequest.payloads_of_addTo hadd, List.append_assoc]
    rfl

lemma VolumeGroupRequest.mountpoints_of_partition {r : VolumeGroupRequest} {p : Partition}
    (h : r.partition type defaultType = .ok p) :
    p.mountpoints = r.logicalVolumes.map (·.filesystem.mountpoint) := by
  obtain ⟨group, hgroup, h⟩ := bind_eq_ok_iff.mp h
  obtain rfl := Except.ok.inj h
  have hpayloads := congrArg (List.filterMap (·.mountpoint)) (payloads_of_foldlM hgroup)
  rw [List.filterMap_map] at hpayloads
  refine hpayloads.trans ?_
  show ([] ++ r.logicalVolumes.map _).filterMap _ = _
  rw [List.nil_append, List.filterMap_map]
  have hfilesystem : (fun r : LogicalVolumeRequest =>
      (r.filesystem.filesystem defaultType).mountpoint) = some ∘ (·.filesystem.mountpoint) :=
    funext fun r => r.filesystem.mountpoint_filesystem
  rw [← List.filterMap_eq_map, ← hfilesystem]
  rfl

lemma mountpoints_of_mapM {rs : List VolumeGroupRequest} {ps : List Partition}
    (h : rs.mapM (·.partition type defaultType) = .ok ps) :
    ps.flatMap (·.mountpoints) =
      rs.flatMap fun r => r.logicalVolumes.map (·.filesystem.mountpoint) := by
  induction rs generalizing ps with
  | nil =>
    obtain rfl := Except.ok.inj h
    rfl
  | cons r rs ih =>
    rw [List.mapM_cons] at h
    obtain ⟨p, hp, h⟩ := bind_eq_ok_iff.mp h
    obtain ⟨qs, hqs, h⟩ := bind_eq_ok_iff.mp h
    obtain rfl := Except.ok.inj h
    rw [List.flatMap_cons, List.flatMap_cons, ih hqs,
      VolumeGroupRequest.mountpoints_of_partition hp]

end DiskPlan
