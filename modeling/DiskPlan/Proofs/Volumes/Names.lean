import DiskPlan.Proofs.Allocation.Exact
import DiskPlan.Proofs.Mountpoints.Requested
import Mathlib.Data.List.Nodup
import Mathlib.Data.List.Perm.Subperm

/-!
# Naming the volumes of a group

Volumes get their names in the order of the document: a given name is kept and a missing one is made
up, so that it is none of those before it.  A group with up to a hundred volumes never runs out of
names to make up.  What can go wrong is that a given name has been made up for an earlier volume
(`IsForestalled`); that is the only way in which creating the volumes fails, when their sizes fit.
-/
namespace DiskPlan

open Size (limit roundUp)

/-! ## Names that are made up -/

namespace VolumeGroup

/-- The names of the volumes of a group. -/
def names (g : VolumeGroup) : List String := g.logicalVolumes.map (·.name)

lemma hasVolume_iff (g : VolumeGroup) (name : String) :
    g.hasVolume name = true ↔ name ∈ g.names := by
  rw [hasVolume, names, List.any_eq_true, List.mem_map]
  simp

lemma digitChar_inj {a b : Nat} (ha : a < 10) (hb : b < 10)
    (h : Nat.digitChar a = Nat.digitChar b) : a = b := by
  have hall : ∀ a < 10, ∀ b < 10, Nat.digitChar a = Nat.digitChar b → a = b := by decide
  exact hall a ha b hb h

lemma numbered_inj {base : String} {i j : Nat} (hi : i < 100) (hj : j < 100)
    (h : numbered base i = numbered base j) : i = j := by
  have hlist := congrArg String.toList h
  simp only [numbered, String.toList_append, String.toList_ofList, List.append_cancel_left_eq,
    List.cons.injEq, and_true] at hlist
  have htens := digitChar_inj (by omega) (by omega) hlist.1
  have hones := digitChar_inj (by omega) (by omega) hlist.2
  omega

/-- The numbered names made from a mountpoint. -/
def numberedNames (mountpoint : String) : List String :=
  (List.range 100).map (numbered (nameFor mountpoint))

lemma nodup_numberedNames (mountpoint : String) : (numberedNames mountpoint).Nodup := by
  refine List.Nodup.map_on ?_ List.nodup_range
  intro i hi j hj h
  exact numbered_inj (List.mem_range.mp hi) (List.mem_range.mp hj) h

lemma nameFor_notMem_numberedNames (mountpoint : String) :
    nameFor mountpoint ∉ numberedNames mountpoint := by
  intro h
  obtain ⟨i, -, hi⟩ := List.mem_map.mp h
  have hlength := congrArg (fun name => name.toList.length) hi
  simp [numbered] at hlength

/-- Up to a hundred names, the one made from the mountpoint among them, leave one of the numbered
names free. -/
lemma exists_numbered_free {taken : List String} (h : taken.length ≤ 100) {mountpoint : String}
    (hbase : nameFor mountpoint ∈ taken) : ∃ name ∈ numberedNames mountpoint, name ∉ taken := by
  -- otherwise a hundred and one different names would be among fewer
  by_contra hall
  push Not at hall
  have hnodup : (nameFor mountpoint :: numberedNames mountpoint).Nodup :=
    List.nodup_cons.mpr ⟨nameFor_notMem_numberedNames mountpoint, nodup_numberedNames mountpoint⟩
  have hle := (List.subperm_of_subset hnodup (List.cons_subset.mpr ⟨hbase, hall⟩)).length_le
  rw [List.length_cons, numberedNames, List.length_map, List.length_range] at hle
  omega

lemma exists_find?_numbered {taken : List String} (h : taken.length ≤ 100) {mountpoint : String}
    (hbase : nameFor mountpoint ∈ taken) :
    ∃ name, (numberedNames mountpoint).find? (fun name => decide (name ∉ taken)) = some name := by
  obtain ⟨name, hname, hfree⟩ := exists_numbered_free h hbase
  exact Option.isSome_iff_exists.mp (List.find?_isSome.mpr ⟨name, hname, by simpa using hfree⟩)

/-- The name made up for a volume beside the taken ones: the one made from its mountpoint, or the
first numbered one that is free. -/
def madeName (taken : List String) (mountpoint : String) : String :=
  if nameFor mountpoint ∈ taken then
    ((numberedNames mountpoint).find? fun name => decide (name ∉ taken)).getD ""
  else nameFor mountpoint

lemma not_hasVolume_eq (g : VolumeGroup) :
    (fun name => !g.hasVolume name) = fun name => decide (name ∉ g.names) := by
  funext name
  by_cases hname : name ∈ g.names
  · simp [hname, (g.hasVolume_iff name).mpr hname]
  · have hnone : g.hasVolume name = false := by
      rw [Bool.eq_false_iff, ne_eq, hasVolume_iff]
      exact hname
    simp [hname, hnone]

/-- A name can be made up while there are no more than a hundred. -/
lemma freeName_eq {g : VolumeGroup} (h : g.logicalVolumes.length ≤ 100) (mountpoint : String) :
    g.freeName mountpoint = .ok (madeName g.names mountpoint) := by
  have hlength : g.names.length ≤ 100 := by rwa [names, List.length_map]
  unfold freeName madeName
  dsimp only
  rw [← numberedNames, not_hasVolume_eq]
  by_cases hbase : nameFor mountpoint ∈ g.names
  · rw [if_pos ((g.hasVolume_iff _).mpr hbase), if_pos hbase]
    obtain ⟨found, hfound⟩ := exists_find?_numbered hlength hbase
    rw [hfound]
    rfl
  · rw [if_neg (by rwa [hasVolume_iff]), if_neg hbase]

/-- No other name is ever made up, however many there are. -/
lemma eq_madeName_of_freeName {g : VolumeGroup} {mountpoint name : String}
    (h : g.freeName mountpoint = .ok name) : name = madeName g.names mountpoint := by
  unfold freeName at h
  dsimp only at h
  rw [← numberedNames, not_hasVolume_eq] at h
  rw [madeName]
  by_cases hbase : nameFor mountpoint ∈ g.names
  · rw [if_pos ((g.hasVolume_iff _).mpr hbase)] at h
    rw [if_pos hbase]
    rcases hfind : (numberedNames mountpoint).find? fun name => decide (name ∉ g.names)
      with _ | found
    · rw [hfind] at h
      cases h
    · rw [hfind] at h
      exact (Except.ok.inj h).symm
  · rw [if_neg (by rwa [hasVolume_iff])] at h
    rw [if_neg hbase]
    exact (Except.ok.inj h).symm

end VolumeGroup

/-! ## Names in the order of the document -/

namespace LogicalVolumeRequest

/-- The name that is given for a volume; empty when there is none. -/
def givenName (r : LogicalVolumeRequest) : String := r.name.getD ""

/-- The name of a volume beside the taken ones: the given one, or one that is made up. -/
def nameAmong (taken : List String) (r : LogicalVolumeRequest) : String :=
  if r.givenName = "" then VolumeGroup.madeName taken r.filesystem.mountpoint else r.givenName

/-- Whether a name is given that is taken already. -/
def IsTaken (taken : List String) (r : LogicalVolumeRequest) : Prop :=
  r.givenName ≠ "" ∧ r.givenName ∈ taken

instance (taken : List String) (r : LogicalVolumeRequest) : Decidable (r.IsTaken taken) :=
  inferInstanceAs (Decidable (_ ∧ _))

end LogicalVolumeRequest

/-- The names that volumes get one after the other, beside the taken ones. -/
def assignNames : List String → List LogicalVolumeRequest → List String
  | _, [] => []
  | taken, r :: rs => r.nameAmong taken :: assignNames (taken ++ [r.nameAmong taken]) rs

/-- Whether a name that is given for some volume is taken when its turn comes: by then an earlier
volume has it. -/
def IsForestalled (taken : List String) (rs : List LogicalVolumeRequest) : Prop :=
  ∃ earlier r later, rs = earlier ++ r :: later ∧ r.IsTaken (taken ++ assignNames taken earlier)

lemma not_isForestalled_nil (taken : List String) : ¬ IsForestalled taken [] := by
  rintro ⟨earlier, r, later, h, -⟩
  simp at h

/-- Either the first given name is taken, or it is an earlier one for the rest. -/
lemma isForestalled_cons_iff {taken : List String} {r : LogicalVolumeRequest}
    {rs : List LogicalVolumeRequest} :
    IsForestalled taken (r :: rs) ↔
      r.IsTaken taken ∨ IsForestalled (taken ++ [r.nameAmong taken]) rs := by
  constructor
  · rintro ⟨earlier, s, later, h, htaken⟩
    rcases earlier with _ | ⟨e, es⟩
    · obtain ⟨rfl, rfl⟩ := List.cons.inj h
      rw [assignNames, List.append_nil] at htaken
      exact .inl htaken
    · obtain ⟨rfl, rfl⟩ := List.cons.inj h
      refine .inr ⟨es, s, later, rfl, ?_⟩
      rwa [assignNames, List.append_cons] at htaken
  · rintro (htaken | ⟨earlier, s, later, rfl, htaken⟩)
    · exact ⟨[], r, rs, rfl, by rwa [assignNames, List.append_nil]⟩
    · exact ⟨r :: earlier, s, later, rfl, by rwa [assignNames, List.append_cons]⟩

instance decidableIsForestalled :
    (taken : List String) → (rs : List LogicalVolumeRequest) → Decidable (IsForestalled taken rs)
  | taken, [] => isFalse (not_isForestalled_nil taken)
  | taken, r :: rs =>
    have := decidableIsForestalled (taken ++ [r.nameAmong taken]) rs
    decidable_of_iff _ isForestalled_cons_iff.symm

/-! ## The volumes of a group -/

namespace LogicalVolumeRequest

/-- The volume that is asked for, under a name, in whole extents. -/
def volume (r : LogicalVolumeRequest) (defaultType : FsType) (name : String) : LogicalVolume where
  name
  size := roundUp (sizeOrDefault r.filesystem.minsize) VolumeGroup.extent
  payload := r.filesystem.filesystem defaultType

/-- Whether the size of a volume in whole extents fits on a disk. -/
def SizeFits (r : LogicalVolumeRequest) : Prop :=
  roundUp (sizeOrDefault r.filesystem.minsize) VolumeGroup.extent < limit

variable {r : LogicalVolumeRequest} {defaultType : FsType} {g : VolumeGroup}

lemma chooseName_eq (hcount : g.logicalVolumes.length < 100) :
    g.chooseName r.givenName (r.filesystem.filesystem defaultType) =
      if r.IsTaken g.names then .error (.configuration (.volumeExists r.givenName g.name))
      else .ok (r.nameAmong g.names) := by
  rw [VolumeGroup.chooseName, nameAmong, r.filesystem.mountpoint_filesystem, Option.getD_some]
  by_cases hgiven : r.givenName = ""
  · have hfree : ¬ r.IsTaken g.names := fun h => h.1 hgiven
    rw [if_pos hgiven, if_pos hgiven, if_neg hfree, VolumeGroup.freeName_eq (Nat.le_of_lt hcount)]
  · rw [if_neg hgiven, if_neg hgiven]
    by_cases htaken : r.givenName ∈ g.names
    · have hhas : r.IsTaken g.names := ⟨hgiven, htaken⟩
      rw [if_pos ((g.hasVolume_iff _).mpr htaken), if_pos hhas]
    · have hfree : ¬ r.IsTaken g.names := fun h => htaken h.2
      rw [if_neg (by rwa [VolumeGroup.hasVolume_iff]), if_neg hfree]

/-- A volume is added under its name, or refused because that name is taken. -/
lemma addTo_eq (hcount : g.logicalVolumes.length < 100) (hfits : r.SizeFits) :
    r.addTo defaultType g =
      if r.IsTaken g.names then .error (.configuration (.volumeExists r.givenName g.name))
      else .ok { g with
        logicalVolumes := g.logicalVolumes ++ [r.volume defaultType (r.nameAmong g.names)] } := by
  have hname : g.chooseName r.givenName (r.filesystem.filesystem defaultType) = _ :=
    chooseName_eq hcount
  have hsize : VolumeGroup.wholeExtents (sizeOrDefault r.filesystem.minsize) = _ :=
    (VolumeGroup.exact_wholeExtents _).eq_ok hfits
  rw [addTo, VolumeGroup.create_eq, VolumeGroup.newVolume, ← givenName, hname, hsize]
  split
  · rfl
  · rfl

lemma eq_nameAmong_of_chooseName {name : String}
    (h : g.chooseName r.givenName (r.filesystem.filesystem defaultType) = .ok name) :
    name = r.nameAmong g.names := by
  rw [VolumeGroup.chooseName, r.filesystem.mountpoint_filesystem, Option.getD_some] at h
  rw [nameAmong]
  by_cases hgiven : r.givenName = ""
  · rw [if_pos hgiven] at h ⊢
    exact VolumeGroup.eq_madeName_of_freeName h
  · rw [if_neg hgiven] at h ⊢
    split at h
    · cases h
    · exact (Except.ok.inj h).symm

/-- A volume that is added has its name and its size in whole extents. -/
lemma eq_of_addTo {g' : VolumeGroup} (h : r.addTo defaultType g = .ok g') :
    g' = { g with
      logicalVolumes := g.logicalVolumes ++ [r.volume defaultType (r.nameAmong g.names)] } := by
  rw [addTo, VolumeGroup.create_eq] at h
  obtain ⟨added, hadded, h⟩ := bind_eq_ok_iff.mp h
  obtain ⟨name, hname, hadded⟩ := bind_eq_ok_iff.mp hadded
  obtain ⟨size, hsize, hadded⟩ := bind_eq_ok_iff.mp hadded
  obtain rfl := Except.ok.inj h
  obtain rfl := Except.ok.inj hadded
  rw [eq_nameAmong_of_chooseName hname, (VolumeGroup.exact_wholeExtents _).eq_of_ok hsize]
  rfl

end LogicalVolumeRequest

/-- The volumes that are asked for, under the names that they get one after the other. -/
def assignedVolumes (defaultType : FsType) (taken : List String) (rs : List LogicalVolumeRequest) :
    List LogicalVolume :=
  rs.zipWith (fun r name => r.volume defaultType name) (assignNames taken rs)

lemma assignedVolumes_cons (defaultType : FsType) (taken : List String) (r : LogicalVolumeRequest)
    (rs : List LogicalVolumeRequest) :
    assignedVolumes defaultType taken (r :: rs) = r.volume defaultType (r.nameAmong taken)
      :: assignedVolumes defaultType (taken ++ [r.nameAmong taken]) rs := rfl

lemma mem_assignedVolumes (defaultType : FsType) (taken : List String) {r : LogicalVolumeRequest}
    {rs : List LogicalVolumeRequest} (h : r ∈ rs) :
    ∃ name, r.volume defaultType name ∈ assignedVolumes defaultType taken rs := by
  induction rs generalizing taken with
  | nil => cases h
  | cons s ss ih =>
    rw [assignedVolumes_cons]
    rcases List.mem_cons.mp h with rfl | h
    · exact ⟨_, List.mem_cons_self⟩
    · obtain ⟨name, hname⟩ := ih (taken ++ [s.nameAmong taken]) h
      exact ⟨name, List.mem_cons_of_mem _ hname⟩

/-- There is a volume for each request, with the filesystem that was asked for. -/
lemma map_payload_assignedVolumes (defaultType : FsType) (taken : List String)
    (rs : List LogicalVolumeRequest) :
    (assignedVolumes defaultType taken rs).map (·.payload) =
      rs.map (·.filesystem.filesystem defaultType) := by
  induction rs generalizing taken with
  | nil => rfl
  | cons r rs ih =>
    rw [assignedVolumes_cons, List.map_cons, List.map_cons, ih]
    rfl

section Fold

variable (defaultType : FsType) {rs : List LogicalVolumeRequest} {g : VolumeGroup}

/-- Volumes whose sizes fit are created one after the other, when no name is forestalled. -/
lemma foldlM_addTo_eq (hcount : g.logicalVolumes.length + rs.length ≤ 100)
    (hfits : ∀ r ∈ rs, r.SizeFits) (hnames : ¬ IsForestalled g.names rs) :
    rs.foldlM (fun group r => r.addTo defaultType group) g = .ok { g with
      logicalVolumes := g.logicalVolumes ++ assignedVolumes defaultType g.names rs } := by
  induction rs generalizing g with
  | nil =>
    rw [assignedVolumes, assignNames, List.zipWith_nil_left, List.append_nil]
    rfl
  | cons r rs ih =>
    obtain ⟨hr, hrs⟩ := List.forall_mem_cons.mp hfits
    rw [isForestalled_cons_iff, not_or] at hnames
    rw [List.length_cons] at hcount
    rw [List.foldlM_cons, LogicalVolumeRequest.addTo_eq (by omega) hr, if_neg hnames.1, ok_bind]
    -- the rest is created in the group that has the first volume by now
    have hgroup := ih (g := { g with logicalVolumes :=
      g.logicalVolumes ++ [r.volume defaultType (r.nameAmong g.names)] })
    simp only [VolumeGroup.names, List.map_append, List.length_append] at hgroup hnames ⊢
    rw [hgroup (by simp; omega) hrs hnames.2, assignedVolumes_cons, List.append_assoc]
    rfl

/-- Volumes that are created, however many, are the ones that were asked for. -/
lemma eq_of_foldlM_addTo {g' : VolumeGroup}
    (h : rs.foldlM (fun group r => r.addTo defaultType group) g = .ok g') :
    g' = { g with
      logicalVolumes := g.logicalVolumes ++ assignedVolumes defaultType g.names rs } := by
  induction rs generalizing g with
  | nil =>
    rw [assignedVolumes, assignNames, List.zipWith_nil_left, List.append_nil]
    exact (Except.ok.inj h).symm
  | cons r rs ih =>
    rw [List.foldlM_cons] at h
    obtain ⟨middle, hadd, hrest⟩ := bind_eq_ok_iff.mp h
    rw [ih hrest, LogicalVolumeRequest.eq_of_addTo hadd, assignedVolumes_cons]
    simp only [VolumeGroup.names, List.map_append, List.append_assoc]
    rfl

/-- A forestalled name is what creating the volumes stops at. -/
lemma foldlM_addTo_of_isForestalled (hcount : g.logicalVolumes.length + rs.length ≤ 100)
    (hfits : ∀ r ∈ rs, r.SizeFits) (hnames : IsForestalled g.names rs) :
    ∃ name, rs.foldlM (fun group r => r.addTo defaultType group) g =
      .error (.configuration (.volumeExists name g.name)) := by
  induction rs generalizing g with
  | nil => exact absurd hnames (not_isForestalled_nil _)
  | cons r rs ih =>
    obtain ⟨hr, hrs⟩ := List.forall_mem_cons.mp hfits
    rw [List.length_cons] at hcount
    rw [List.foldlM_cons, LogicalVolumeRequest.addTo_eq (by omega) hr]
    by_cases htaken : r.IsTaken g.names
    · exact ⟨r.givenName, by rw [if_pos htaken, error_bind]⟩
    · rw [if_neg htaken, ok_bind]
      have hlater := (isForestalled_cons_iff.mp hnames).resolve_left htaken
      have hgroup := ih (g := { g with logicalVolumes :=
        g.logicalVolumes ++ [r.volume defaultType (r.nameAmong g.names)] })
      simp only [VolumeGroup.names, List.map_append, List.length_append] at hgroup hlater ⊢
      exact hgroup (by simp; omega) hrs hlater

end Fold
end DiskPlan
