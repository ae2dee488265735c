import DiskPlan.Proofs.Identification.Drawn
import DiskPlan.Proofs.Plan.Components

/-!
# The composition of a planned table

What each component of a plan becomes in the finished table.  The outline of a component is its
partition as the customization describes it: the type code, the filesystems with their types and
labels, the volumes with their names and sizes.  What is added to an outline on the way to the
finished table are its place, the size that a btrfs root reports, and identifiers
(`plan_composition`).

The size of a partition is settled by two numbers, the one that is declared and the one that is
needed for what the partition holds, where the need of a mountpoint is what is owed to it for
directories.  Every partition but the last has exactly the larger of the two, on the grain.
-/
namespace DiskPlan

open Size (limit roundUp)

variable {type : TableType} {defaultType : FsType} {need : String → Nat}

/-! ## Outlines -/

/-- The filesystem that is asked for: its type, or else the default one, and its label unless that
is empty. -/
def FilesystemRequest.outline (r : FilesystemRequest) (defaultType : FsType) : Filesystem where
  type := r.type.getD defaultType
  label := r.label.filter (· ≠ "")
  mountpoint := some r.mountpoint

/-- The size that is declared for a filesystem, and 1 GiB where none is. -/
def FilesystemRequest.base (r : FilesystemRequest) : Nat :=
  if r.minsize = 0 then 1073741824 else r.minsize

/-- The size of a logical volume: what is declared or needed, in whole extents. -/
def LogicalVolumeRequest.sizeFor (need : String → Nat) (r : LogicalVolumeRequest) : Nat :=
  roundUp (max r.filesystem.base (need r.filesystem.mountpoint)) VolumeGroup.extent

/-- The logical volume that is asked for, under a name. -/
def LogicalVolumeRequest.outline (need : String → Nat) (defaultType : FsType)
    (r : LogicalVolumeRequest) (name : String) : LogicalVolume where
  name
  size := r.sizeFor need
  payload := r.filesystem.outline defaultType

/-- The logical volumes that are asked for, each under the name that it gets beside those that are
taken by then. -/
def outlineVolumes (need : String → Nat) (defaultType : FsType) :
    List String → List LogicalVolumeRequest → List LogicalVolume
  | _, [] => []
  | taken, r :: rs => r.outline need defaultType (r.nameAmong taken)
      :: outlineVolumes need defaultType (taken ++ [r.nameAmong taken]) rs

/-! ## Type codes -/

namespace TableType

/-- Whether a text has the form of the type codes in a kind of table: those of a GPT are GUIDs in
upper-case hexadecimal, the others are single bytes in lower-case hexadecimal. -/
def IsCode : TableType → String → Prop
  | .gpt, code => ∃ digits, Identifier.IsGroupingOf code.toList digits
      ∧ ∀ c ∈ digits, c ∈ "0123456789ABCDEF".toList
  | .dos, code => ∃ byte, Identifier.IsHexOf code.toList [byte]

/-- The groups of a GUID are what stands between its hyphens. -/
lemma isCode_gpt {code : String}
    (hlength : (code.toList.splitOn '-').map List.length = [8, 4, 4, 4, 12])
    (hdigits : (code.toList.splitOn '-').flatten.all ("0123456789ABCDEF".toList.contains ·)) :
    gpt.IsCode code := by
  refine ⟨_, ⟨_, hlength, rfl, (List.intercalate_splitOn '-').symm⟩, fun c hc => ?_⟩
  exact List.contains_iff_mem.mp (List.all_eq_true.mp hdigits c hc)

end TableType

namespace Component

/-- The size that is declared for a component, and 1 GiB where none is; a volume group may declare
none. -/
def base : Component → Nat
  | .biosBoot => Size.mebibyte
  | .efiSystem => 200 * Size.mebibyte
  | .filesystem r => r.base
  | .group r => r.minsize
  | .volume r => if r.minsize = 0 then 1073741824 else r.minsize

/-- The size that a component needs, when each mountpoint needs the given size: volumes share the
partition that they are on, and the records of a volume group are beside them. -/
def needed (need : String → Nat) : Component → Nat
  | .biosBoot => 0
  | .efiSystem => need "/boot/efi"
  | .filesystem r => need r.mountpoint
  | .group r => VolumeGroup.metadata + Size.total (·.sizeFor need) r.logicalVolumes
  | .volume r => Size.total (fun s => need s.mountpoint) r.subvolumes

/-- The size of a component on the grain. -/
def room (need : String → Nat) (k : Component) : Nat := roundUp (max k.base (k.needed need)) grain

/-- The type code of a component: a GUID in a GPT, a type byte otherwise.  In a GPT the plain
filesystem for `/boot` has a code of its own. -/
def code : Component → TableType → String
  | .biosBoot, .gpt => "21686148-6449-6E6F-744E-656564454649"
  | .biosBoot, .dos => "00"
  | .efiSystem, .gpt => "C12A7328-F81F-11D2-BA4B-00A0C93EC93B"
  | .efiSystem, .dos => "ef"
  | .filesystem r, .gpt =>
    if r.mountpoint = "/boot" then "BC13C2FF-59E6-4262-A352-B275FD6F7172"
    else "0FC63DAF-8483-4772-8E79-3D69D8477DE4"
  | .filesystem _, .dos => "83"
  | .group _, .gpt => "E6D6D379-F507-44C2-A23C-238F2A3DF928"
  | .group _, .dos => "8e"
  | .volume _, .gpt => "0FC63DAF-8483-4772-8E79-3D69D8477DE4"
  | .volume _, .dos => "83"

/-- Each component has a code of the form that its table takes. -/
lemma isCode_code (k : Component) (type : TableType) : type.IsCode (k.code type) := by
  cases type with
  | gpt =>
    cases k with
    | filesystem r =>
      rw [code]
      split
      · exact TableType.isCode_gpt (by decide) rfl
      · exact TableType.isCode_gpt (by decide) rfl
    | biosBoot | efiSystem | group | volume =>
      rw [code]
      exact TableType.isCode_gpt (by decide) rfl
  | dos =>
    cases k with
    | biosBoot => exact ⟨0x00, Identifier.isHexOf_hex [0x00]⟩
    | efiSystem => exact ⟨0xef, Identifier.isHexOf_hex [0xef]⟩
    | group =>
      rw [code]
      exact ⟨0x8e, Identifier.isHexOf_hex [0x8e]⟩
    | filesystem | volume =>
      rw [code]
      exact ⟨0x83, Identifier.isHexOf_hex [0x83]⟩

/-- The identifier of a standard partition, which only those of a GPT have. -/
def uuid : Component → TableType → Option String
  | .biosBoot, .gpt => some "FAC7F1FB-3E8D-4137-A512-961DE09A5549"
  | .efiSystem, .gpt => some "68B2905B-DF3E-4FB3-80FA-49D1E773AA33"
  | _, _ => none

/-- What the partition of a component holds. -/
def payload (need : String → Nat) (defaultType : FsType) : Component → Option Payload
  | .biosBoot => none
  | .efiSystem => some (.filesystem
      { type := .vfat
        uuid := some "7B77-95E7"
        label := some "EFI-SYSTEM"
        mountpoint := some "/boot/efi"
        fstabOptions := "defaults,uid=0,gid=0,umask=077,shortname=winnt"
        fstabPassno := 2 })
  | .filesystem r => some (.filesystem (r.outline defaultType))
  | .group r => some (.lvm
      { name := if r.name = "" then "rootvg" else r.name
        description := "created by disklayout"
        logicalVolumes := outlineVolumes need defaultType [] r.logicalVolumes })
  | .volume r => some (.btrfs
      { subvolumes := r.subvolumes.map fun s => { name := s.name, mountpoint := s.mountpoint } })

/-- The partition of a component in its place. -/
def outline (need : String → Nat) (type : TableType) (defaultType : FsType) (k : Component)
    (start size : Nat) : Partition where
  start
  size
  type := k.code type
  bootable := k = .biosBoot
  uuid := k.uuid type
  payload := k.payload need defaultType

/-- The partition `p` is what a component has become. -/
structure IsPlannedAs (need : String → Nat) (type : TableType) (defaultType : FsType)
    (k : Component) (p : Partition) : Prop where
  /-- It is the outline in its place, with identifiers. -/
  eq : p.IsIdentificationOf type (k.outline need type defaultType p.start p.size).reportSize
  /-- It has the size that is declared and the one that is needed. -/
  max_le_size : max k.base (k.needed need) ≤ p.size

lemma IsPlannedAs.type_eq {k : Component} {p : Partition}
    (h : k.IsPlannedAs need type defaultType p) : p.type = k.code type := by
  obtain ⟨payload, hreport⟩ :=
    (k.outline need type defaultType p.start p.size).reportSize_eq
  rw [h.eq.eq, hreport]
  rfl

end Component

/-! ## From drafts to outlines -/

lemma FilesystemRequest.filesystem_eq_outline (r : FilesystemRequest) :
    r.filesystem defaultType = r.outline defaultType := by
  rw [filesystem, Filesystem.labelled, outline]
  rcases r.label with _ | label
  · rfl
  · rw [Option.getD_some]
    split
    · next hempty => simp [hempty, Filesystem.mountedAt, Option.filter_some]
    · next hlabel => simp [hlabel, Filesystem.mountedAt, Option.filter_some]

lemma LogicalVolumeRequest.grown_volume (r : LogicalVolumeRequest) (name : String)
    (sizes : PathMap Nat) :
    (r.volume defaultType name).grown sizes = r.outline sizes.amount defaultType name := by
  have hcharge : (r.volume defaultType name).charge sizes =
      sizes.amount r.filesystem.mountpoint := by
    rw [LogicalVolume.charge, volume, r.filesystem.mountpoint_filesystem, Option.elim_some]
  rw [LogicalVolume.grown, hcharge, outline, sizeFor, ← Size.max_roundUp VolumeGroup.extent_pos,
    ← r.filesystem.filesystem_eq_outline]
  rfl

/-- The volumes of a group grow on their own. -/
lemma map_grown_assignedVolumes (taken : List String) (rs : List LogicalVolumeRequest)
    (sizes : PathMap Nat) :
    (assignedVolumes defaultType taken rs).map (·.grown sizes) =
      outlineVolumes sizes.amount defaultType taken rs := by
  induction rs generalizing taken with
  | nil => rfl
  | cons r rs ih => rw [assignedVolumes_cons, List.map_cons, ih, r.grown_volume, outlineVolumes]

lemma volumesNeed_outlineVolumes (taken : List String) (rs : List LogicalVolumeRequest) :
    VolumeGroup.volumesNeed (outlineVolumes need defaultType taken rs) =
      Size.total (·.sizeFor need) rs := by
  induction rs generalizing taken with
  | nil => rfl
  | cons r rs ih =>
    have hround : roundUp (r.sizeFor need) VolumeGroup.extent = r.sizeFor need :=
      Size.roundUp_eq_self VolumeGroup.extent_pos (Size.dvd_roundUp _ _)
    rw [outlineVolumes, VolumeGroup.volumesNeed_cons, ih, Size.total_cons]
    exact congrArg (· + _) hround

namespace Component

lemma type_draft (k : Component) : (k.draft type defaultType).type = k.code type := by
  cases k with
  | biosBoot => cases type <;> rfl
  | efiSystem => cases type <;> rfl
  | filesystem r =>
    have hcode : (draft type defaultType (.filesystem r)).type =
        if r.mountpoint = "/boot" then Role.extendedBoot.code type else Role.data.code type :=
      apply_ite (Role.code · type) _ _ _
    rw [hcode]
    cases type with
    | gpt => rfl
    | dos => exact ite_self _
  | group r => cases type <;> rfl
  | volume r => cases type <;> rfl

lemma uuid_draft (k : Component) : (k.draft type defaultType).uuid = k.uuid type := by
  cases k with
  | biosBoot => cases type <;> rfl
  | efiSystem => cases type <;> rfl
  | filesystem r => rfl
  | group r => rfl
  | volume r => rfl

/-- A draft grows to its outline, with room for what is declared and needed. -/
lemma grown_draft_eq (k : Component) (sizes : PathMap Nat) :
    ∃ size, (k.draft type defaultType).grown sizes = k.outline sizes.amount type defaultType 0 size
      ∧ max size ((k.draft type defaultType).grown sizes).need
        = max k.base (k.needed sizes.amount) := by
  simp only [outline, ← @type_draft type defaultType, ← @uuid_draft type defaultType]
  cases k with
  | biosBoot => exact ⟨_, rfl, rfl⟩
  | efiSystem => exact ⟨_, rfl, Nat.max_zero _⟩
  | filesystem r =>
    rw [draft, FilesystemRequest.partition, r.filesystem_eq_outline]
    exact ⟨_, rfl, Nat.max_zero _⟩
  | group r =>
    -- a group keeps its size when its volumes grow, but it needs more for them
    rw [payload, ← map_grown_assignedVolumes]
    refine ⟨r.minsize, rfl, ?_⟩
    show max r.minsize (VolumeGroup.metadata + VolumeGroup.volumesNeed
      ((assignedVolumes defaultType [] r.logicalVolumes).map (·.grown sizes))) = _
    rw [map_grown_assignedVolumes, volumesNeed_outlineVolumes]
    rfl
  | volume r =>
    have hcharge : BtrfsVolume.chargeOf sizes r.volume.subvolumes =
        Size.total (fun s => sizes.amount s.mountpoint) r.subvolumes := Size.total_map _ _
    refine ⟨_, rfl, ?_⟩
    rw [hcharge]
    exact Nat.max_zero _

lemma room_grown_draft (k : Component) (sizes : PathMap Nat) :
    ((k.draft type defaultType).grown sizes).room = k.room sizes.amount := by
  obtain ⟨size, heq, hmax⟩ := @grown_draft_eq type defaultType k sizes
  have hsize : ((k.draft type defaultType).grown sizes).size = size := by rw [heq]; rfl
  rw [Partition.room, hsize, hmax, room]

/-- An identified draft in its place is what the component was planned as. -/
lemma isPlannedAs_of_isPlacementOf {k : Component} {sizes : PathMap Nat} {p q : Partition}
    (hp : p.IsIdentificationOf type q)
    (hq : q.IsPlacementOf ((k.draft type defaultType).grown sizes)) :
    k.IsPlannedAs sizes.amount type defaultType p := by
  obtain ⟨size, heq, hmax⟩ := @grown_draft_eq type defaultType k sizes
  have hstart : p.start = q.start := by rw [hp.eq]
  have hsize : p.size = q.size := by rw [hp.eq]
  constructor
  · have hplaced := hq.eq
    rw [heq] at hplaced
    rw [hplaced] at hp
    rw [hstart, hsize]
    exact hp
  · have hdeclared := hq.declared_le
    have hneed := hq.need_le
    rw [hq.need_eq] at hneed
    rw [heq] at hdeclared
    have hle : size ≤ q.size := hdeclared
    omega

lemma holdsRoot_eq (k : Component) (sizes : PathMap Nat) :
    ((k.draft type defaultType).grown sizes).mounts "/" = k.holdsRoot := by
  rw [Partition.mounts, Partition.mountpoints_grown, mountpoints_draft, holdsRoot]

end Component

namespace Customization

/-- What is owed to the mountpoints of a planned table for the directories that it has to hold. -/
def owed (c : Customization) (options : Options) : String → Nat :=
  DiskPlan.owed ((c.components options.bootMode).flatMap (·.mountpoints)) options.requiredSizes

/-- Allocation puts the component with the root last. -/
lemma rootLast_grown_blueprint {c : Customization} (options : Options) (defaultType : FsType)
    {root : Component} (sizes : PathMap Nat)
    (hroot : (c.components options.bootMode).filter (·.holdsRoot) = [root]) :
    rootLast ((c.blueprint options defaultType).partitions.map (·.grown sizes)) =
      ((c.components options.bootMode).filter (!·.holdsRoot) ++ [root]).map fun k =>
        (k.draft options.effectiveTableType defaultType).grown sizes := by
  have hmounts : ∀ k : Component,
      ((k.draft options.effectiveTableType defaultType).grown sizes).mounts "/" = k.holdsRoot :=
    fun k => k.holdsRoot_eq sizes
  rw [partitions_blueprint, List.map_map, rootLast_eq_filter]
  · rw [List.filter_map, List.filter_map, ← List.map_append, ← hroot]
    simp only [Function.comp_def, hmounts]
  · rw [List.countP_map, List.countP_eq_length_filter]
    simp only [Function.comp_def, hmounts, hroot]
    exact Nat.le_refl 1

/-- **A planned table is made of its components.**  Each component has become one partition, in
order but for the one with the root, which comes last.  A partition is the outline of its component
in its place, identified, and its type code has the form that the table takes.  Every partition but
the last has just the size that is declared or needed, on the grain. -/
theorem plan_composition {c : Option Customization} {options : Options}
    {stream stream' : ByteStream} {t : Table}
    (habs : ∀ e ∈ options.requiredSizes.entries, Path.isAbsolute e.1 = true)
    (h : plan c options stream = .ok (t, stream')) :
    ∃ defaultType root, options.defaultFsType = some defaultType
      ∧ t.type = options.effectiveTableType
      ∧ ((c.getD {}).components options.bootMode).filter (·.holdsRoot) = [root]
      ∧ List.Forall₂
          (fun p k => k.IsPlannedAs ((c.getD {}).owed options) t.type defaultType p)
          t.partitions
          (((c.getD {}).components options.bootMode).filter (!·.holdsRoot) ++ [root])
      ∧ (∀ p ∈ t.partitions, t.type.IsCode p.type)
      ∧ t.partitions.dropLast.map (·.size) =
          (((c.getD {}).components options.bootMode).filter (!·.holdsRoot)).map
            (·.room ((c.getD {}).owed options)) := by
  obtain ⟨hnodup, defaultType, htype, hfit, hid⟩ := isFinished_of_plan h
  generalize c.getD {} = c at *
  obtain ⟨root, hroot⟩ := exists_filter_holdsRoot hnodup options.bootMode
  have howed : ((c.blueprint options defaultType).chargesOf options.requiredSizes).amount =
      c.owed options := by
    rw [Table.amount_chargesOf _ habs, mountpoints_blueprint, owed]
  have hlast := rootLast_grown_blueprint options defaultType
    ((c.blueprint options defaultType).chargesOf options.requiredSizes) hroot
  have hplaced := Table.isPlacementOf_laidOut hfit
  have hsizes := Table.map_size_dropLast_laidOut
    ((c.blueprint options defaultType).grown options.requiredSizes) c.minsize
  have hkind : (((c.blueprint options defaultType).grown options.requiredSizes).laidOut
      c.minsize).type = options.effectiveTableType := by
    rw [Table.type_laidOut, Table.type_grown, type_blueprint]
  rw [Table.partitions_grown, hlast] at hplaced hsizes
  -- from here on it counts only where the partitions of the placed table come from
  generalize ((c.blueprint options defaultType).grown options.requiredSizes).laidOut c.minsize =
    placed at *
  have hplanned : List.Forall₂ (fun p k => k.IsPlannedAs (c.owed options) t.type defaultType p)
      t.partitions ((c.components options.bootMode).filter (!·.holdsRoot) ++ [root]) := by
    -- each partition is an identified placement of the grown draft of its component
    rw [List.forall₂_map_right_iff] at hplaced
    refine forall₂_comp (fun p q k hp hq => ?_) hid.partitions hplaced
    rw [hid.type_eq, ← howed]
    rw [hkind] at hp ⊢
    exact Component.isPlannedAs_of_isPlacementOf hp hq
  have hcodes : ∀ p ∈ t.partitions, t.type.IsCode p.type :=
    forall_mem_left_of_forall₂ (fun p k hp => by
      rw [hp.type_eq]
      exact k.isCode_code t.type) hplanned
  refine ⟨defaultType, root, htype, hid.type_eq.trans hkind, hroot, hplanned, hcodes, ?_⟩
  -- the sizes are those of the layout, which identification keeps
  have hkept := map_eq_of_forall₂ (fun p q hp => hp.size_eq) hid.partitions
  rw [List.map_dropLast, hkept, ← List.map_dropLast, hsizes, ← List.map_dropLast,
    List.dropLast_concat, List.map_map]
  refine List.map_congr_left fun k _ => ?_
  rw [Function.comp_apply, ← howed, k.room_grown_draft]

/-- A root that is declared first comes last, and a group has room for its records and its volumes
in whole extents. -/
theorem plan_composition_of_root_first :
    ∃ (c : Customization) (options : Options) (t : Table) (stream' : ByteStream),
      options.requiredSizes.entries = [("/usr", 5368709120), ("/var/log", 2147483649)]
      ∧ c.components options.bootMode = [.biosBoot, .efiSystem,
        .filesystem { mountpoint := "/" },
        .filesystem { mountpoint := "/home", minsize := 3, label := some "home", type := some .xfs },
        .group { name := "", logicalVolumes :=
          [{ filesystem := { mountpoint := "/var", label := some "" } }] }]
      ∧ plan (some c) options (.counting 0) = .ok (t, stream')
      ∧ t.partitions.map (·.type) = ["21686148-6449-6E6F-744E-656564454649",
        "C12A7328-F81F-11D2-BA4B-00A0C93EC93B", "0FC63DAF-8483-4772-8E79-3D69D8477DE4",
        "E6D6D379-F507-44C2-A23C-238F2A3DF928", "0FC63DAF-8483-4772-8E79-3D69D8477DE4"]
      ∧ t.partitions.map (·.payload) = [none,
        some (.filesystem { type := .vfat, uuid := some "7B77-95E7", label := some "EFI-SYSTEM",
                            mountpoint := some "/boot/efi",
                            fstabOptions := "defaults,uid=0,gid=0,umask=077,shortname=winnt",
                            fstabPassno := 2 }),
        some (.filesystem { type := .xfs, uuid := some "20212223-2425-4627-a829-2a2b2c2d2e2f",
                            label := some "home", mountpoint := some "/home" }),
        some (.lvm
          { name := "rootvg", description := "created by disklayout",
            uuid := some "40414243-4445-4647-8849-4a4b4c4d4e4f",
            logicalVolumes := [{ name := "varlv", size := 2151677952, payload :=
              { type := .ext4, uuid := some "50515253-5455-4657-9859-5a5b5c5d5e5f",
                mountpoint := some "/var" } }] }),
        some (.filesystem { type := .ext4, uuid := some "70717273-7475-4677-b879-7a7b7c7d7e7f",
                            mountpoint := some "/" })]
      ∧ t.partitions.dropLast.map (·.size) = [1048576, 209715200, 1048576, 2152726528] := by
  refine ⟨{ plain := some { filesystems := [{ mountpoint := "/" },
              { mountpoint := "/home", minsize := 3, label := some "home", type := some .xfs }] }
            lvm := some { volumeGroups := [{ name := "", logicalVolumes :=
              [{ filesystem := { mountpoint := "/var", label := some "" } }] }] } },
    { defaultFsType := some .ext4, bootMode := .hybrid
      requiredSizes := .ofList [("/usr", 5368709120), ("/var/log", 2147483649)] },
    _, _, rfl, rfl, rfl, rfl, by decide +kernel, ?_⟩
  obtain ⟨-, -, -, -, -, -, -, hsizes⟩ := plan_composition (by decide) (show plan
    (some { plain := some { filesystems := [{ mountpoint := "/" },
              { mountpoint := "/home", minsize := 3, label := some "home", type := some .xfs }] }
            lvm := some { volumeGroups := [{ name := "", logicalVolumes :=
              [{ filesystem := { mountpoint := "/var", label := some "" } }] }] } })
    { defaultFsType := some .ext4, bootMode := .hybrid
      requiredSizes := .ofList [("/usr", 5368709120), ("/var/log", 2147483649)] }
    (.counting 0) = _ from rfl)
  rw [hsizes]
  decide

end Customization
end DiskPlan
