import DiskPlan.Proofs.Customization.Validation
import DiskPlan.Proofs.Plan.Exact
import DiskPlan.Proofs.Plan.Steps

/-!
# What an accepted customization is refused for

The structural rules compare the names that are given for logical volumes with each other, but not
with those that are made up along the way.  A customization that keeps the rules, and whose table
fits on a disk, is planned exactly when no given name is forestalled by one made up before it
(`plan_succeeds_iff`).  So the order of the volumes matters; the one order that always works lists
the volumes with names first (`plan_succeeds_of_named_first`).
-/
namespace DiskPlan

open Size (limit)

/-! ## Orders that forestall no name -/

lemma assignNames_of_named {taken : List String} {rs : List LogicalVolumeRequest}
    (h : ∀ r ∈ rs, r.givenName ≠ "") : assignNames taken rs = rs.map (·.givenName) := by
  induction rs generalizing taken with
  | nil => rfl
  | cons r rs ih =>
    rw [List.forall_mem_cons] at h
    have hname : r.nameAmong taken = r.givenName := by
      rw [LogicalVolumeRequest.nameAmong, if_neg h.1]
    rw [assignNames, hname, ih h.2, List.map_cons]

/-- Volumes with distinct names before those without forestall no name. -/
lemma not_isForestalled_of_named_first {named unnamed : List LogicalVolumeRequest}
    (hnamed : ∀ r ∈ named, r.givenName ≠ "") (hunnamed : ∀ r ∈ unnamed, r.givenName = "")
    (hnodup : (named.map (·.givenName)).Nodup) : ¬ IsForestalled [] (named ++ unnamed) := by
  rintro ⟨earlier, r, later, hsplit, hgiven, htaken⟩
  rw [List.nil_append] at htaken
  rcases List.append_eq_append_iff.mp hsplit with ⟨as, rfl, hr⟩ | ⟨bs, hnamed', hr⟩
  · -- the volume comes after all that have names
    exact hgiven (hunnamed r (by rw [hr]; simp))
  · rcases bs with _ | ⟨b, bs⟩
    · exact hgiven (hunnamed r (by rw [List.nil_append] at hr; rw [← hr]; simp))
    · -- the volume and all before it have names, so those are the given ones
      obtain ⟨rfl, -⟩ := List.cons.inj hr
      subst hnamed'
      rw [assignNames_of_named fun e he => hnamed e (List.mem_append_left _ he)] at htaken
      rw [List.map_append, List.map_cons, List.nodup_append] at hnodup
      exact hnodup.2.2 _ htaken _ List.mem_cons_self rfl

/-- The names that are given for volumes are those that are not empty. -/
lemma filter_filterMap_name (rs : List LogicalVolumeRequest) :
    (rs.filterMap (·.name)).filter (· != "") = (rs.map (·.givenName)).filter (· != "") := by
  induction rs with
  | nil => rfl
  | cons r rs ih =>
    rcases hname : r.name with _ | name
    · simp [hname, LogicalVolumeRequest.givenName, ih]
    · rw [List.filterMap_cons_some hname, List.map_cons, List.filter_cons, List.filter_cons, ih,
        LogicalVolumeRequest.givenName, hname, Option.getD_some]

/-! ## Plans that succeed -/

namespace Customization

variable {c : Customization} {options : Options} {defaultType : FsType}

/-- A layout without forestalled names is the exact one, when that fits on a disk. -/
lemma layOut_eq (hvalid : c.validate = .ok ())
    (hcount : ∀ g ∈ c.volumeGroups, g.logicalVolumes.length ≤ 100)
    (htype : options.defaultFsType = some defaultType) (hmode : options.mode = .grow)
    (hfit : c.layoutTotal options defaultType < limit)
    (hnames : ∀ g ∈ c.volumeGroups, ¬ g.IsForestalled) :
    c.layOut options =
      .ok (((c.blueprint options defaultType).grown options.requiredSizes).laidOut c.minsize) := by
  obtain ⟨hfinalized, hsector⟩ := c.tableWith_sectorSize options defaultType
    (c.volumeGroups.map (·.exactPartition options.effectiveTableType defaultType))
  have hdraft := draft_eq options defaultType hcount (sizesFit_of_layoutTotal hfit) hnames
  have hplaced := (Table.exact_growAndAllocate (t := c.blueprint options defaultType) hfinalized
    (by rw [blueprint, hsector]; rfl) options.requiredSizes c.minsize).eq_ok hfit
  obtain ⟨grown, hgrown, hallocated⟩ := bind_eq_ok_iff.mp hplaced
  rw [layOut_eq_ok_iff]
  exact ⟨hvalid, defaultType, htype, _, hdraft, grown, hgrown, by rw [hmode, hallocated]⟩

/-- A layout with a forestalled name is refused for it. -/
lemma layOut_of_isForestalled (hvalid : c.validate = .ok ())
    (hcount : ∀ g ∈ c.volumeGroups, g.logicalVolumes.length ≤ 100)
    (htype : options.defaultFsType = some defaultType)
    (hfit : c.layoutTotal options defaultType < limit)
    (hnames : ∃ g ∈ c.volumeGroups, g.IsForestalled) :
    ∃ name group, c.layOut options = .error (.configuration (.volumeExists name group)) := by
  obtain ⟨name, group, hdraft⟩ := draft_of_isForestalled options defaultType hcount
    (sizesFit_of_layoutTotal hfit) hnames
  refine ⟨name, group, ?_⟩
  rw [layOut, hvalid, ok_bind, htype]
  dsimp only
  rw [hdraft, error_bind]

/-- **An accepted customization is refused only for a forestalled name.**  When the customization
keeps the rules, no group has more than a hundred volumes, there is a default filesystem type and
the whole table, which may grow, fits on a disk, then the plan succeeds exactly when no given name
is forestalled, and what it fails with otherwise is that a volume of that name exists. -/
theorem plan_succeeds_iff {stream : ByteStream} (hvalid : c.validate = .ok ())
    (hcount : ∀ g ∈ c.volumeGroups, g.logicalVolumes.length ≤ 100)
    (htype : options.defaultFsType = some defaultType) (hmode : options.mode = .grow)
    (hfit : c.layoutTotal options defaultType < limit) :
    ((∃ result, plan (some c) options stream = .ok result) ↔
        ∀ g ∈ c.volumeGroups, ¬ g.IsForestalled)
      ∧ ∀ e, plan (some c) options stream = .error e →
        ∃ name group, e = .configuration (.volumeExists name group) := by
  by_cases hnames : ∀ g ∈ c.volumeGroups, ¬ g.IsForestalled
  · have hlayout := layOut_eq hvalid hcount htype hmode hfit hnames
    have hplan : plan (some c) options stream = .ok _ :=
      plan_eq_ok_iff.mpr ⟨_, hlayout, rfl⟩
    refine ⟨⟨fun _ => hnames, fun _ => ⟨_, hplan⟩⟩, ?_⟩
    intro e he
    rw [hplan] at he
    cases he
  · have hsome : ∃ g ∈ c.volumeGroups, g.IsForestalled := by
      by_contra hnone
      exact hnames fun g hg hforestalled => hnone ⟨g, hg, hforestalled⟩
    obtain ⟨name, group, hlayout⟩ := layOut_of_isForestalled hvalid hcount htype hfit hsome
    have hplan : plan (some c) options stream =
        .error (.configuration (.volumeExists name group)) := by
      rw [plan, Option.getD_some, hlayout, error_bind]
    refine ⟨⟨?_, fun h => absurd h hnames⟩, ?_⟩
    · rintro ⟨result, hresult⟩
      rw [hplan] at hresult
      cases hresult
    · intro e he
      rw [hplan] at he
      cases he
      exact ⟨name, group, rfl⟩

/-- A name that is given before it would be made up is kept, and another one is made up. -/
theorem plan_succeeds_of_homelv_first :
    ∃ c : Customization, c.volumeGroups.map (fun g => g.logicalVolumes.map (·.name))
        = [[some "homelv", none]]
      ∧ c.validate = .ok () ∧ c.layoutTotal { defaultFsType := some .ext4 } .ext4 < limit
      ∧ ∃ result, plan (some c) { defaultFsType := some .ext4 } (.counting 0) = .ok result := by
  refine ⟨{ lvm := some { volumeGroups := [{ name := "vg", logicalVolumes :=
    [{ name := some "homelv", filesystem := { mountpoint := "/srv" } },
      { filesystem := { mountpoint := "/home" } }] }] } }, rfl, rfl, by decide, ?_⟩
  refine (plan_succeeds_iff rfl (by decide) (rfl : _ = some FsType.ext4) rfl ?_).1.mpr ?_
  · decide
  · decide

/-- In the other order the name is made up first, and the plan fails at the one that is given. -/
theorem exists_plan_forestalled :
    ∃ c : Customization, c.volumeGroups.map (fun g => g.logicalVolumes.map (·.name))
        = [[none, some "homelv"]]
      ∧ c.validate = .ok () ∧ c.layoutTotal { defaultFsType := some .ext4 } .ext4 < limit
      ∧ plan (some c) { defaultFsType := some .ext4 } (.counting 0)
        = .error (.configuration (.volumeExists "homelv" "vg")) := by
  refine ⟨{ lvm := some { volumeGroups := [{ name := "vg", logicalVolumes :=
    [{ filesystem := { mountpoint := "/home" } },
      { name := some "homelv", filesystem := { mountpoint := "/srv" } }] }] } }, rfl, rfl, ?_, rfl⟩
  decide

/-- **Volumes with names first always work.**  An accepted customization that lists the volumes
with names before those without is planned, when its table fits on a disk. -/
theorem plan_succeeds_of_named_first {stream : ByteStream} (hvalid : c.validate = .ok ())
    (hcount : ∀ g ∈ c.volumeGroups, g.logicalVolumes.length ≤ 100)
    (htype : options.defaultFsType = some defaultType) (hmode : options.mode = .grow)
    (hfit : c.layoutTotal options defaultType < limit)
    (horder : ∀ g ∈ c.volumeGroups, ∃ named unnamed, g.logicalVolumes = named ++ unnamed
      ∧ (∀ r ∈ named, r.givenName ≠ "") ∧ ∀ r ∈ unnamed, r.givenName = "") :
    ∃ result, plan (some c) options stream = .ok result := by
  have hnames : ∀ g ∈ c.volumeGroups, ¬ g.IsForestalled := by
    intro g hg
    obtain ⟨named, unnamed, hsplit, hnamed, hunnamed⟩ := horder g hg
    have hnodup := nodup_names_of_validate hvalid hg
    rw [filter_filterMap_name, hsplit, List.map_append, List.filter_append, List.nodup_append]
      at hnodup
    have hall : (named.map (·.givenName)).filter (· != "") = named.map (·.givenName) := by
      rw [List.filter_eq_self, List.forall_mem_map]
      intro r hr
      simpa using hnamed r hr
    rw [VolumeGroupRequest.IsForestalled, hsplit]
    exact not_isForestalled_of_named_first hnamed hunnamed (hall ▸ hnodup.1)
  exact ⟨_, plan_eq_ok_iff.mpr ⟨_, layOut_eq hvalid hcount htype hmode hfit hnames, rfl⟩⟩

end Customization
end DiskPlan
