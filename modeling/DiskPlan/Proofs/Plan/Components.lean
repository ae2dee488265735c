import DiskPlan.Proofs.Growth.Reached
import DiskPlan.Proofs.Mountpoints.Unique
import DiskPlan.Proofs.Plan.Exact

/-!
# The components of a plan

What a planned table is made of, as a list that says for each partition why it is there: the boot
mode needs it, it holds a plain filesystem, a volume group or a btrfs volume that is asked for, or
it is one of the two filesystems that are added, `/boot` and the root.  The draft of a table has one
partition for each component, in order, and just one of them holds the root.
-/
namespace DiskPlan

/-- The filesystem that is added for `/boot`. -/
def bootRequest : FilesystemRequest :=
  { mountpoint := "/boot", minsize := 512 * Size.mebibyte, label := some "boot" }

/-- The root filesystem that is added where there is no other. -/
def rootRequest : FilesystemRequest := { mountpoint := "/", label := some "root" }

/-- What a partition is planned for. -/
inductive Component where
  /-- Room for a BIOS boot loader. -/
  | biosBoot
  /-- The EFI system partition. -/
  | efiSystem
  /-- A plain filesystem. -/
  | filesystem (r : FilesystemRequest)
  /-- A volume group. -/
  | group (r : VolumeGroupRequest)
  /-- A btrfs volume. -/
  | volume (r : BtrfsVolumeRequest)
  deriving Repr, DecidableEq

namespace Component

/-- The mountpoints of a component, in order of declaration. -/
def mountpoints : Component → List String
  | .biosBoot => []
  | .efiSystem => ["/boot/efi"]
  | .filesystem r => [r.mountpoint]
  | .group r => r.logicalVolumes.map (·.filesystem.mountpoint)
  | .volume r => r.subvolumes.map (·.mountpoint)

/-- Whether a component holds the root. -/
def holdsRoot (k : Component) : Bool := k.mountpoints.contains "/"

/-- The partition of a component before it is grown and placed, in unbounded numbers. -/
def draft (type : TableType) (defaultType : FsType) : Component → Partition
  | .biosBoot => .biosBoot type
  | .efiSystem => .efiSystem type
  | .filesystem r => r.partition type defaultType
  | .group r => r.exactPartition type defaultType
  | .volume r => r.partition type

lemma mountpoints_draft (type : TableType) (defaultType : FsType) (k : Component) :
    (k.draft type defaultType).mountpoints = k.mountpoints := by
  cases k with
  | biosBoot => rfl
  | efiSystem => rfl
  | filesystem r => exact r.mountpoints_partition
  | group r =>
    have hpayloads := congrArg (List.filterMap (·.mountpoint))
      (map_payload_assignedVolumes defaultType [] r.logicalVolumes)
    rw [List.filterMap_map, List.filterMap_map] at hpayloads
    refine hpayloads.trans ?_
    rw [mountpoints, ← List.filterMap_eq_map]
    exact congrArg (List.filterMap · r.logicalVolumes)
      (funext fun v => v.filesystem.mountpoint_filesystem)
  | volume r => exact r.mountpoints_partition

end Component

/-- The components that a boot mode needs. -/
def BootMode.components (mode : BootMode) : List Component :=
  (if mode = .legacy ∨ mode = .hybrid then [.biosBoot] else [])
    ++ if mode = .uefi ∨ mode = .hybrid then [.efiSystem] else []

lemma BootMode.partitions_eq (mode : BootMode) (type : TableType) (defaultType : FsType) :
    mode.partitions type = mode.components.map (·.draft type defaultType) := by
  cases mode <;> rfl

lemma BootMode.flatMap_mountpoints_components (mode : BootMode) :
    mode.components.flatMap (·.mountpoints) = if mode.needsEfi then ["/boot/efi"] else [] := by
  cases mode <;> rfl

namespace Customization

variable {c : Customization} {mode : BootMode}

/-- The `/boot` that is added when the root is on a volume and no `/boot` is asked for. -/
def addedBoot (c : Customization) : List Component :=
  if ("/" ∈ c.logicalMountpoints ∨ "/" ∈ c.subvolumeMountpoints) ∧ "/boot" ∉ c.mountpoints then
    [.filesystem bootRequest]
  else []

/-- What booting needs and what is asked for, in order. -/
def plannedComponents (c : Customization) (mode : BootMode) : List Component :=
  mode.components
    ++ c.addedBoot
    ++ c.plainFilesystems.map .filesystem
    ++ c.volumeGroups.map .group
    ++ c.btrfsVolumes.map .volume

/-- All components of the table of a customization: a root is added where none is asked for. -/
def components (c : Customization) (mode : BootMode) : List Component :=
  c.plannedComponents mode ++ if "/" ∈ c.mountpoints then [] else [.filesystem rootRequest]

lemma requiresBoot_iff : c.requiresBoot = true ↔
    ("/" ∈ c.logicalMountpoints ∨ "/" ∈ c.subvolumeMountpoints) ∧ "/boot" ∉ c.mountpoints := by
  simp only [requiresBoot, Bool.and_eq_true, Bool.or_eq_true, Bool.not_eq_true',
    List.contains_eq_mem, decide_eq_true_eq, decide_eq_false_iff_not]
  exact and_comm

lemma map_draft_addedBoot (c : Customization) (type : TableType) (defaultType : FsType) :
    (if c.requiresBoot then [Partition.boot type defaultType] else []) =
      c.addedBoot.map (·.draft type defaultType) := by
  simp only [addedBoot, requiresBoot_iff]
  split
  · rfl
  · rfl

lemma flatMap_mountpoints_addedBoot (c : Customization) :
    c.addedBoot.flatMap (·.mountpoints) = if c.requiresBoot then ["/boot"] else [] := by
  simp only [addedBoot, requiresBoot_iff]
  split
  · rfl
  · rfl

lemma partitionsWith_eq (c : Customization) (options : Options) (defaultType : FsType) :
    c.partitionsWith options defaultType
        (c.volumeGroups.map (·.exactPartition options.effectiveTableType defaultType)) =
      (c.plannedComponents options.bootMode).map
        (·.draft options.effectiveTableType defaultType) := by
  rw [partitionsWith, plannedComponents, options.bootMode.partitions_eq _ defaultType]
  rw [map_draft_addedBoot]
  simp only [List.map_append, List.map_map]
  rfl

lemma flatMap_mountpoints_plannedComponents (c : Customization) (mode : BootMode) :
    (c.plannedComponents mode).flatMap (·.mountpoints) = c.plannedMountpoints mode := by
  have hplain : (c.plainFilesystems.map Component.filesystem).flatMap (·.mountpoints) =
      c.plainFilesystems.map (·.mountpoint) := by
    rw [List.flatMap_map, List.map_eq_flatMap]
    rfl
  have hgroups : (c.volumeGroups.map Component.group).flatMap (·.mountpoints) =
      c.logicalMountpoints := by
    rw [List.flatMap_map]
    rfl
  have hvolumes : (c.btrfsVolumes.map Component.volume).flatMap (·.mountpoints) =
      c.subvolumeMountpoints := by
    rw [List.flatMap_map]
    rfl
  rw [plannedComponents, List.flatMap_append, List.flatMap_append, List.flatMap_append,
    List.flatMap_append, mode.flatMap_mountpoints_components, flatMap_mountpoints_addedBoot,
    hplain, hgroups, hvolumes, plannedMountpoints, mountpoints]
  simp only [List.append_assoc]

/-- Only what is asked for can mount the root. -/
lemma root_mem_plannedMountpoints_iff : "/" ∈ c.plannedMountpoints mode ↔ "/" ∈ c.mountpoints := by
  rw [plannedMountpoints, List.mem_append, List.mem_append]
  constructor
  · rintro ((hefi | hboot) | hmem)
    · split at hefi
      · simp at hefi
      · simp at hefi
    · split at hboot
      · simp at hboot
      · simp at hboot
    · exact hmem
  · exact .inr

lemma flatMap_mountpoints_components (c : Customization) (mode : BootMode) :
    (c.components mode).flatMap (·.mountpoints) =
      c.plannedMountpoints mode ++ if "/" ∈ c.mountpoints then [] else ["/"] := by
  rw [components, List.flatMap_append, flatMap_mountpoints_plannedComponents]
  split
  · rfl
  · rfl

/-- **A draft has one partition for each component.** -/
lemma partitions_blueprint (c : Customization) (options : Options) (defaultType : FsType) :
    (c.blueprint options defaultType).partitions =
      (c.components options.bootMode).map (·.draft options.effectiveTableType defaultType) := by
  have hplanned := c.partitionsWith_eq options defaultType
  have hmountpoints : (c.partitionsWith options defaultType
      (c.volumeGroups.map (·.exactPartition options.effectiveTableType defaultType))).flatMap
      (·.mountpoints) = c.plannedMountpoints options.bootMode := by
    rw [hplanned, List.flatMap_map, ← flatMap_mountpoints_plannedComponents]
    simp only [Component.mountpoints_draft]
  rw [blueprint, tableWith, components]
  simp only [Table.find?_isSome_iff, Table.mountpoints, hmountpoints,
    root_mem_plannedMountpoints_iff]
  split
  · rw [hplanned, List.append_nil]
  · -- no root is asked for, and the one that is added comes last
    rw [Table.add, hplanned, List.map_append]
    rfl

lemma type_blueprint (c : Customization) (options : Options) (defaultType : FsType) :
    (c.blueprint options defaultType).type = options.effectiveTableType := by
  rw [blueprint, tableWith]
  split
  · rfl
  · rfl

lemma mountpoints_blueprint (c : Customization) (options : Options) (defaultType : FsType) :
    (c.blueprint options defaultType).mountpoints =
      (c.components options.bootMode).flatMap (·.mountpoints) := by
  rw [Table.mountpoints, partitions_blueprint, List.flatMap_map]
  simp only [Component.mountpoints_draft]

/-! ## The root -/

lemma countP_holdsRoot_le (ks : List Component) :
    ks.countP (·.holdsRoot) ≤ (ks.flatMap (·.mountpoints)).count "/" := by
  induction ks with
  | nil => exact Nat.le_refl _
  | cons k ks ih =>
    rw [List.flatMap_cons, List.count_append, List.countP_cons]
    split
    · next hk =>
      have hmem : "/" ∈ k.mountpoints := by simpa [Component.holdsRoot] using hk
      have hpos : 0 < k.mountpoints.count "/" := List.count_pos_iff.mpr hmem
      omega
    · omega

/-- Just one component holds the root: the one that asks for it, or else the one that is added. -/
lemma exists_filter_holdsRoot (h : c.mountpoints.Nodup) (mode : BootMode) :
    ∃ root, (c.components mode).filter (·.holdsRoot) = [root] := by
  -- what booting needs never mounts the root
  have hplanned : (c.plannedMountpoints mode).count "/" = c.mountpoints.count "/" := by
    rw [plannedMountpoints, List.count_append, List.count_append]
    have hefi : (if mode.needsEfi then ["/boot/efi"] else []).count "/" = 0 := by split <;> rfl
    have hboot : (if c.requiresBoot then ["/boot"] else []).count "/" = 0 := by split <;> rfl
    omega
  have hcount : ((c.components mode).flatMap (·.mountpoints)).count "/" = 1 := by
    rw [flatMap_mountpoints_components, List.count_append, hplanned]
    split
    · next hmem => rw [List.count_eq_one_of_mem h hmem, List.count_nil]
    · next hfree => rw [List.count_eq_zero.mpr hfree, List.count_singleton_self]
  have hle := countP_holdsRoot_le (c.components mode)
  have hpos : 0 < (c.components mode).countP (·.holdsRoot) := by
    have hmem : "/" ∈ (c.components mode).flatMap (·.mountpoints) :=
      List.count_pos_iff.mp (by omega)
    obtain ⟨k, hk, hroot⟩ := List.mem_flatMap.mp hmem
    exact List.countP_pos_iff.mpr ⟨k, hk, by simpa [Component.holdsRoot] using hroot⟩
  rw [← List.length_eq_one_iff, ← List.countP_eq_length_filter]
  omega

lemma mem_of_filter_holdsRoot {ks : List Component} {root : Component}
    (h : ks.filter (·.holdsRoot) = [root]) : root ∈ ks ∧ root.holdsRoot = true := by
  have hmem : root ∈ ks.filter (·.holdsRoot) := by
    rw [h]
    exact List.mem_singleton_self root
  exact List.mem_filter.mp hmem

/-! ## The finished plan -/

/-- A planned table is the draft, finished. -/
lemma isFinished_of_plan {c : Option Customization} {options : Options}
    {stream stream' : ByteStream} {t : Table} (h : plan c options stream = .ok (t, stream')) :
    (c.getD {}).mountpoints.Nodup ∧ ∃ defaultType, options.defaultFsType = some defaultType
      ∧ t.IsFinished ((c.getD {}).blueprint options defaultType) options.requiredSizes
        (c.getD {}).minsize := by
  obtain ⟨placed, hplaced, hresult⟩ := plan_eq_ok_iff.mp h
  -- each step has succeeded, so its result is the exact one
  obtain ⟨hvalid, defaultType, htype, drafted, hdrafted, grown, hgrown, hallocated⟩ :=
    layOut_eq_ok_iff.mp hplaced
  obtain rfl := eq_of_draft hdrafted
  obtain rfl := (Table.exact_growDirectories _ _).eq_of_ok hgrown
  obtain ⟨-, -, hfit, -, rfl⟩ := Table.allocate_eq_ok_iff.mp hallocated
  have ht : t = (Table.identify _ |>.run stream).1 := congrArg Prod.fst hresult
  refine ⟨nodup_mountpoints_of_validate hvalid, defaultType, htype, hfit, ?_⟩
  rw [ht]
  exact Table.isIdentificationOf_identify _ stream

end Customization
end DiskPlan
