import DiskPlan.Proofs.Growth.Exact
import DiskPlan.Proofs.Volumes.Names

/-!
# Drafts in unbounded numbers

The draft that a customization asks for when no size is refused and no name is forestalled
(`Customization.blueprint`), and the size of the table that it leads to
(`Customization.layoutTotal`).  All that is computed for the draft is a part of that size, so when
it fits on a disk only a forestalled name can keep the draft from being made.
-/
namespace DiskPlan

open Size (limit roundUp)

variable {type : TableType} {defaultType : FsType}

/-! ## Volume groups -/

namespace VolumeGroupRequest

/-- Whether a name that is given for some volume is taken by an earlier one. -/
def IsForestalled (r : VolumeGroupRequest) : Prop := DiskPlan.IsForestalled [] r.logicalVolumes

instance (r : VolumeGroupRequest) : Decidable r.IsForestalled :=
  inferInstanceAs (Decidable (DiskPlan.IsForestalled _ _))

/-- The group that is asked for, in unbounded numbers. -/
def exactGroup (r : VolumeGroupRequest) (defaultType : FsType) : VolumeGroup :=
  { VolumeGroup.new r.name with
    logicalVolumes := assignedVolumes defaultType [] r.logicalVolumes }

/-- The partition that is asked for, in unbounded numbers. -/
def exactPartition (r : VolumeGroupRequest) (type : TableType) (defaultType : FsType) : Partition :=
  r.partitionOf type (r.exactGroup defaultType)

/-- Whether the sizes of all volumes fit on a disk. -/
def SizesFit (r : VolumeGroupRequest) : Prop := ∀ v ∈ r.logicalVolumes, v.SizeFits

variable {r : VolumeGroupRequest}

lemma partition_eq (hcount : r.logicalVolumes.length ≤ 100) (hfits : r.SizesFit)
    (hnames : ¬ r.IsForestalled) :
    r.partition type defaultType = .ok (r.exactPartition type defaultType) := by
  have hgroup := foldlM_addTo_eq defaultType (g := VolumeGroup.new r.name)
    (by simpa [VolumeGroup.new] using hcount) hfits hnames
  rw [partition, group, hgroup, ok_bind]
  rfl

lemma eq_of_partition {p : Partition} (h : r.partition type defaultType = .ok p) :
    p = r.exactPartition type defaultType := by
  obtain ⟨group, hgroup, h⟩ := bind_eq_ok_iff.mp h
  obtain rfl := Except.ok.inj h
  rw [eq_of_foldlM_addTo defaultType hgroup]
  rfl

lemma partition_of_isForestalled (hcount : r.logicalVolumes.length ≤ 100) (hfits : r.SizesFit)
    (hnames : r.IsForestalled) :
    ∃ name group, r.partition type defaultType =
      .error (.configuration (.volumeExists name group)) := by
  obtain ⟨name, hgroup⟩ := foldlM_addTo_of_isForestalled defaultType
    (g := VolumeGroup.new r.name) (by simpa [VolumeGroup.new] using hcount) hfits hnames
  exact ⟨name, _, by rw [partition, group, hgroup, error_bind]⟩

/-- The first group with a forestalled name is what listing the groups stops at. -/
lemma mapM_partition_of_isForestalled (type : TableType) (defaultType : FsType)
    {rs : List VolumeGroupRequest}
    (hcount : ∀ r ∈ rs, r.logicalVolumes.length ≤ 100) (hfits : ∀ r ∈ rs, r.SizesFit)
    (hnames : ∃ r ∈ rs, r.IsForestalled) :
    ∃ name group, rs.mapM (·.partition type defaultType) =
      .error (.configuration (.volumeExists name group)) := by
  induction rs with
  | nil => simp at hnames
  | cons r rs ih =>
    rw [List.forall_mem_cons] at hcount hfits
    rw [List.mapM_cons]
    by_cases hr : r.IsForestalled
    · obtain ⟨name, group, h⟩ := partition_of_isForestalled hcount.1 hfits.1 hr
      exact ⟨name, group, by rw [h, error_bind]⟩
    · have hrs : ∃ r ∈ rs, r.IsForestalled := by
        obtain ⟨s, hs, hforestalled⟩ := hnames
        rcases List.mem_cons.mp hs with rfl | hs
        · exact absurd hforestalled hr
        · exact ⟨s, hs, hforestalled⟩
      obtain ⟨name, group, h⟩ := ih hcount.2 hfits.2 hrs
      exact ⟨name, group, by rw [partition_eq hcount.1 hfits.1 hr, ok_bind, h, error_bind]⟩

lemma mapM_partition_eq {rs : List VolumeGroupRequest}
    (hcount : ∀ r ∈ rs, r.logicalVolumes.length ≤ 100) (hfits : ∀ r ∈ rs, r.SizesFit)
    (hnames : ∀ r ∈ rs, ¬ r.IsForestalled) :
    rs.mapM (·.partition type defaultType) = .ok (rs.map (·.exactPartition type defaultType)) := by
  induction rs with
  | nil => rfl
  | cons r rs ih =>
    rw [List.forall_mem_cons] at hcount hfits hnames
    rw [List.mapM_cons, partition_eq hcount.1 hfits.1 hnames.1, ok_bind,
      ih hcount.2 hfits.2 hnames.2, ok_bind]
    rfl

lemma eq_of_mapM_partition {rs : List VolumeGroupRequest} {ps : List Partition}
    (h : rs.mapM (·.partition type defaultType) = .ok ps) :
    ps = rs.map (·.exactPartition type defaultType) := by
  induction rs generalizing ps with
  | nil => exact (Except.ok.inj h).symm
  | cons r rs ih =>
    rw [List.mapM_cons] at h
    obtain ⟨p, hp, h⟩ := bind_eq_ok_iff.mp h
    obtain ⟨qs, hqs, h⟩ := bind_eq_ok_iff.mp h
    obtain rfl := Except.ok.inj h
    rw [List.map_cons, eq_of_partition hp, ih hqs]

end VolumeGroupRequest

/-! ## Drafts -/

namespace Customization

variable {c : Customization} {options : Options}

/-- The table that a customization asks for, before it is grown and placed, in unbounded numbers. -/
def blueprint (c : Customization) (options : Options) (defaultType : FsType) : Table :=
  c.tableWith options defaultType
    (c.volumeGroups.map (·.exactPartition options.effectiveTableType defaultType))

/-- The size of the table that a customization asks for, grown and in its place, in unbounded
numbers. -/
def layoutTotal (c : Customization) (options : Options) (defaultType : FsType) : Nat :=
  ((c.blueprint options defaultType).grown options.requiredSizes).settledSize c.minsize

/-- A draft has the usual sectors, and no places yet. -/
lemma tableWith_sectorSize (c : Customization) (options : Options) (defaultType : FsType)
    (groups : List Partition) :
    (c.tableWith options defaultType groups).finalized = false
      ∧ (c.tableWith options defaultType groups).sectorSize = 512 := by
  unfold tableWith
  dsimp only
  split
  · exact ⟨rfl, rfl⟩
  · exact ⟨rfl, rfl⟩

lemma mem_tableWith {groups : List Partition} {p : Partition} (h : p ∈ groups) :
    p ∈ (c.tableWith options defaultType groups).partitions := by
  have hp : p ∈ c.partitionsWith options defaultType groups := by simp [partitionsWith, h]
  unfold tableWith
  dsimp only
  split
  · exact hp
  · exact List.mem_append_left _ hp

/-- The sizes of all volumes are parts of the whole. -/
lemma sizesFit_of_layoutTotal (h : c.layoutTotal options defaultType < limit) :
    ∀ g ∈ c.volumeGroups, g.SizesFit := by
  intro g hg r hr
  obtain ⟨name, hvolume⟩ := mem_assignedVolumes defaultType [] hr
  have hmem : g.exactPartition options.effectiveTableType defaultType ∈
      (c.blueprint options defaultType).partitions := mem_tableWith (List.mem_map_of_mem hg)
  have hroom : ((g.exactPartition options.effectiveTableType defaultType).grown
      ((c.blueprint options defaultType).chargesOf options.requiredSizes)).room
      ≤ c.layoutTotal options defaultType :=
    Table.room_le_settledSize (List.mem_map_of_mem hmem) _
  have hgrown := Partition.grown_size_le_room
    ((c.blueprint options defaultType).chargesOf options.requiredSizes)
    (p := g.exactPartition options.effectiveTableType defaultType) rfl hvolume
  refine Nat.lt_of_le_of_lt ?_ h
  exact Nat.le_trans (Nat.le_max_left _ _) (Nat.le_trans hgrown hroom)

lemma draft_eq (options : Options) (defaultType : FsType)
    (hcount : ∀ g ∈ c.volumeGroups, g.logicalVolumes.length ≤ 100)
    (hfits : ∀ g ∈ c.volumeGroups, g.SizesFit)
    (hnames : ∀ g ∈ c.volumeGroups, ¬ g.IsForestalled) :
    c.draft options defaultType = .ok (c.blueprint options defaultType) := by
  rw [draft, VolumeGroupRequest.mapM_partition_eq hcount hfits hnames, ok_bind]
  rfl

/-- A draft that is made is the exact one. -/
lemma eq_of_draft {drafted : Table} (h : c.draft options defaultType = .ok drafted) :
    drafted = c.blueprint options defaultType := by
  obtain ⟨groups, hgroups, h⟩ := bind_eq_ok_iff.mp h
  obtain rfl := Except.ok.inj h
  rw [VolumeGroupRequest.eq_of_mapM_partition hgroups]
  rfl

lemma draft_of_isForestalled (options : Options) (defaultType : FsType)
    (hcount : ∀ g ∈ c.volumeGroups, g.logicalVolumes.length ≤ 100)
    (hfits : ∀ g ∈ c.volumeGroups, g.SizesFit)
    (hnames : ∃ g ∈ c.volumeGroups, g.IsForestalled) :
    ∃ name group, c.draft options defaultType =
      .error (.configuration (.volumeExists name group)) := by
  obtain ⟨name, group, h⟩ := VolumeGroupRequest.mapM_partition_of_isForestalled
    options.effectiveTableType defaultType hcount hfits hnames
  exact ⟨name, group, by rw [draft, h, error_bind]⟩

end Customization
end DiskPlan
