import DiskPlan.Proofs.Customization.Validation

/-!
# The first broken rule

The structural rules are ranked, and each violation says which rule is broken (`Breaks`).  Checking
a customization decides exactly these rules: it accepts when none is broken, and else it gives the
violation of the broken rule that is ranked first (`Customization.validate_decides`).  Where names
or mountpoints repeat, the violation names the first one, in the order of the document, that is
equal to an earlier one.

The check looks at the rules from the first to the last and stops at a violation, so what it has
found so far decides about the rules ranked below some bound (`IsFirstBelow`); each rule that it
looks at next raises the bound.
-/
namespace DiskPlan

/-! ## First repeats -/

/-- `a` is the first element of a list that is equal to an earlier one. -/
def IsFirstRepeat (a : String) (as : List String) : Prop :=
  ∃ before after, as = before ++ a :: after ∧ a ∈ before ∧ before.Nodup

lemma firstRepeatAfter_eq_some_iff {seen as : List String} {a : String} :
    firstRepeatAfter seen as = some a ↔ ∃ before after, as = before ++ a :: after
      ∧ (a ∈ seen ∨ a ∈ before) ∧ before.Nodup ∧ ∀ b ∈ before, b ∉ seen := by
  induction as generalizing seen with
  | nil => simp [firstRepeatAfter]
  | cons c cs ih =>
    rw [firstRepeatAfter]
    by_cases hc : c ∈ seen
    · rw [if_pos (by simpa using hc), Option.some.injEq]
      constructor
      · rintro rfl
        exact ⟨[], cs, rfl, .inl hc, List.nodup_nil, by simp⟩
      · rintro ⟨before, after, heq, -, -, hbefore⟩
        rcases before with _ | ⟨b, before⟩
        · exact (List.cons.inj heq).1
        · obtain ⟨rfl, -⟩ := List.cons.inj heq
          exact absurd hc (hbefore c List.mem_cons_self)
    · rw [if_neg (by simpa using hc), ih]
      constructor
      · rintro ⟨before, after, rfl, ha, hnodup, hbefore⟩
        have hnew : c ∉ before := fun hmem => hbefore c hmem List.mem_cons_self
        refine ⟨c :: before, after, rfl, ?_, List.nodup_cons.mpr ⟨hnew, hnodup⟩, ?_⟩
        · rcases ha with ha | ha
          · rcases List.mem_cons.mp ha with rfl | ha
            · exact .inr List.mem_cons_self
            · exact .inl ha
          · exact .inr (List.mem_cons_of_mem c ha)
        · refine List.forall_mem_cons.mpr ⟨hc, fun b hb hmem => ?_⟩
          exact hbefore b hb (List.mem_cons_of_mem c hmem)
      · rintro ⟨before, after, heq, ha, hnodup, hbefore⟩
        rcases before with _ | ⟨b, before⟩
        · -- nothing comes before the first element, so it would have been seen
          obtain ⟨rfl, -⟩ := List.cons.inj heq
          exact absurd (ha.resolve_right List.not_mem_nil) hc
        · obtain ⟨rfl, rfl⟩ := List.cons.inj heq
          obtain ⟨hnew, hnodup⟩ := List.nodup_cons.mp hnodup
          refine ⟨before, after, rfl, ?_, hnodup, fun b hb hmem => ?_⟩
          · rcases ha with ha | ha
            · exact .inl (List.mem_cons_of_mem c ha)
            · rcases List.mem_cons.mp ha with rfl | ha
              · exact .inl List.mem_cons_self
              · exact .inr ha
          · rcases List.mem_cons.mp hmem with rfl | hmem
            · exact hnew hb
            · exact hbefore b (List.mem_cons_of_mem c hb) hmem

lemma firstRepeat_eq_some_iff {as : List String} {a : String} :
    firstRepeat as = some a ↔ IsFirstRepeat a as := by
  rw [firstRepeat, firstRepeatAfter_eq_some_iff, IsFirstRepeat]
  simp

/-! ## Rules and their ranks -/

/-- The rank of the rule that a violation breaks, the first rule having the least. -/
def Violation.rank : Violation → Nat
  | .btrfsAndLvm => 0
  | .manyBtrfsVolumes => 1
  | .manyVolumeGroups => 2
  | .emptyFilesystemMountpoint => 3
  | .emptyLogicalMountpoint => 4
  | .emptySubvolumeMountpoint => 5
  | .emptySubvolumeName => 6
  | .duplicateLogicalVolume _ _ => 7
  | .duplicateSubvolume _ => 8
  | .duplicateMountpoint _ => 9

lemma Violation.rank_lt (v : Violation) : v.rank < 10 := by
  cases v <;> simp [rank]

/-- Up to repeats there is one violation for each rule. -/
lemma Violation.eq_of_rank_eq {v w : Violation} (hv : v.rank < 7) (h : w.rank = v.rank) :
    w = v := by
  cases v <;> cases w <;> simp_all [rank]

/-- The names that are given for the volumes of a group; an empty one counts as none. -/
def VolumeGroupRequest.givenNames (g : VolumeGroupRequest) : List String :=
  (g.logicalVolumes.filterMap (·.name)).filter (· != "")

namespace Customization

/-- Whether a customization breaks a rule, in the way that a violation says. -/
def Breaks (c : Customization) : Violation → Prop
  | .btrfsAndLvm => c.btrfs ≠ none ∧ c.lvm ≠ none
  | .manyBtrfsVolumes => 1 < c.btrfsVolumes.length
  | .manyVolumeGroups => 1 < c.volumeGroups.length
  | .emptyFilesystemMountpoint => ∃ r ∈ c.plainFilesystems, r.mountpoint = ""
  | .emptyLogicalMountpoint =>
    ∃ g ∈ c.volumeGroups, ∃ r ∈ g.logicalVolumes, r.filesystem.mountpoint = ""
  | .emptySubvolumeMountpoint => ∃ v ∈ c.btrfsVolumes, ∃ s ∈ v.subvolumes, s.mountpoint = ""
  | .emptySubvolumeName => ∃ v ∈ c.btrfsVolumes, ∃ s ∈ v.subvolumes, s.name = ""
  | .duplicateLogicalVolume name group =>
    ∃ g ∈ c.volumeGroups, g.name = group ∧ IsFirstRepeat name g.givenNames
  | .duplicateSubvolume name =>
    ∃ v ∈ c.btrfsVolumes, IsFirstRepeat name (v.subvolumes.map (·.name))
  | .duplicateMountpoint mountpoint => IsFirstRepeat mountpoint
    (c.plainFilesystems.map (·.mountpoint)
      ++ c.volumeGroups.flatMap (fun g => g.logicalVolumes.map (·.filesystem.mountpoint))
      ++ c.btrfsVolumes.flatMap (fun v => v.subvolumes.map (·.mountpoint)))

/-- What is found when the rules ranked below `n` are looked at: the violation of the first one that
is broken, or nothing when they are all kept. -/
def IsFirstBelow (c : Customization) (n : Nat) : Option Violation → Prop
  | none => ∀ w, c.Breaks w → n ≤ w.rank
  | some v => v.rank < n ∧ c.Breaks v ∧ ∀ w, c.Breaks w → v.rank ≤ w.rank

variable {c : Customization} {n m : Nat}

/-- Further rules are looked at when those so far are kept. -/
lemma IsFirstBelow.append {vs ws : List Violation} (h : c.IsFirstBelow n vs.head?) (hle : n ≤ m)
    (hnext : (∀ w, c.Breaks w → n ≤ w.rank) → c.IsFirstBelow m ws.head?) :
    c.IsFirstBelow m (vs ++ ws).head? := by
  rcases vs with _ | ⟨v, vs⟩
  · exact hnext h
  · exact ⟨Nat.lt_of_lt_of_le h.1 hle, h.2⟩

/-- One more rule is decided by what is found for it. -/
lemma isFirstBelow_succ {found : Option Violation} (hkept : ∀ w, c.Breaks w → n ≤ w.rank)
    (hfound : ∀ v ∈ found, v.rank = n ∧ c.Breaks v)
    (hnone : found = none → ∀ w, w.rank = n → ¬ c.Breaks w) : c.IsFirstBelow (n + 1) found := by
  rcases found with _ | v
  · intro w hw
    have hle := hkept w hw
    have hne : w.rank ≠ n := fun h => hnone rfl w h hw
    omega
  · obtain ⟨hrank, hv⟩ := hfound v rfl
    refine ⟨by omega, hv, fun w hw => ?_⟩
    rw [hrank]
    exact hkept w hw

lemma isFirstBelow_ite {P : Prop} [Decidable P] {v : Violation} (hv : v.rank < 7)
    (hP : P ↔ c.Breaks v) (hkept : ∀ w, c.Breaks w → v.rank ≤ w.rank) :
    c.IsFirstBelow (v.rank + 1) (if P then [v] else []).head? := by
  refine isFirstBelow_succ hkept ?_ ?_
  · intro v' hv'
    split at hv'
    · next h =>
      obtain rfl := Option.some.inj hv'
      exact ⟨rfl, hP.mp h⟩
    · cases hv'
  · intro hnone w hrank hw
    rw [Violation.eq_of_rank_eq hv hrank, ← hP] at hw
    rw [if_pos hw] at hnone
    cases hnone

/-! ## The walk over the rules -/

/-- Of the texts in one volume the mountpoints are looked at before the names. -/
lemma head?_emptyTexts {vs : List BtrfsVolumeRequest} (hcount : vs.length ≤ 1) :
    (vs.filterMap (·.emptyText?)).head? =
      ((if ∃ v ∈ vs, ∃ s ∈ v.subvolumes, s.mountpoint = ""
          then [Violation.emptySubvolumeMountpoint] else [])
        ++ if ∃ v ∈ vs, ∃ s ∈ v.subvolumes, s.name = ""
          then [Violation.emptySubvolumeName] else []).head? := by
  rcases vs with _ | ⟨v, _ | ⟨v', vs⟩⟩
  · simp
  · have htext : v.emptyText? =
        if ∃ s ∈ v.subvolumes, s.mountpoint = "" then some .emptySubvolumeMountpoint
        else if ∃ s ∈ v.subvolumes, s.name = "" then some .emptySubvolumeName else none := by
      simp [BtrfsVolumeRequest.emptyText?]
    simp only [List.filterMap_cons, List.filterMap_nil, List.mem_singleton, exists_eq_left, htext]
    by_cases hmountpoint : ∃ s ∈ v.subvolumes, s.mountpoint = ""
    · rw [if_pos hmountpoint, if_pos hmountpoint]
      rfl
    · rw [if_neg hmountpoint, if_neg hmountpoint, List.nil_append]
      by_cases hname : ∃ s ∈ v.subvolumes, s.name = ""
      · rw [if_pos hname, if_pos hname]
      · rw [if_neg hname, if_neg hname]
  · exact absurd hcount (by simp)

/-- What repeats in some group or volume is found by looking at each of them. -/
lemma isFirstBelow_filterMap {α : Type} (as : List α) (repeated : α → Option String)
    (violation : α → String → Violation) (hkept : ∀ w, c.Breaks w → n ≤ w.rank)
    (hbreaks : ∀ w, w.rank = n ∧ c.Breaks w ↔
      ∃ a ∈ as, ∃ name, repeated a = some name ∧ w = violation a name) :
    c.IsFirstBelow (n + 1) (as.filterMap fun a => (repeated a).map (violation a)).head? := by
  refine isFirstBelow_succ hkept (fun v hv => ?_) (fun hnone w hrank hw => ?_)
  · obtain ⟨a, ha, hname⟩ := List.mem_filterMap.mp (List.mem_of_mem_head? hv)
    obtain ⟨name, hrepeated, rfl⟩ := Option.map_eq_some_iff.mp hname
    exact (hbreaks _).mpr ⟨a, ha, name, hrepeated, rfl⟩
  · obtain ⟨a, ha, name, hrepeated, -⟩ := (hbreaks w).mp ⟨hrank, hw⟩
    have hall := List.filterMap_eq_nil_iff.mp (List.head?_eq_none_iff.mp hnone) a ha
    rw [hrepeated] at hall
    cases hall

lemma breaks_volume_iff (c : Customization) (w : Violation) : w.rank = 7 ∧ c.Breaks w ↔
    ∃ g ∈ c.volumeGroups, ∃ name, g.repeatedName = some name
      ∧ w = .duplicateLogicalVolume name g.name := by
  constructor
  · rintro ⟨hrank, hw⟩
    obtain ⟨name, group, rfl⟩ : ∃ name group, w = .duplicateLogicalVolume name group := by
      cases w <;> simp_all [Violation.rank]
    obtain ⟨g, hg, rfl, hrepeat⟩ := hw
    exact ⟨g, hg, name, firstRepeat_eq_some_iff.mpr hrepeat, rfl⟩
  · rintro ⟨g, hg, name, hrepeat, rfl⟩
    exact ⟨rfl, g, hg, rfl, firstRepeat_eq_some_iff.mp hrepeat⟩

lemma breaks_subvolume_iff (c : Customization) (w : Violation) : w.rank = 8 ∧ c.Breaks w ↔
    ∃ v ∈ c.btrfsVolumes, ∃ name, v.repeatedName = some name ∧ w = .duplicateSubvolume name := by
  constructor
  · rintro ⟨hrank, hw⟩
    obtain ⟨name, rfl⟩ : ∃ name, w = .duplicateSubvolume name := by
      cases w <;> simp_all [Violation.rank]
    obtain ⟨v, hv, hrepeat⟩ := hw
    exact ⟨v, hv, name, firstRepeat_eq_some_iff.mpr hrepeat, rfl⟩
  · rintro ⟨v, hv, name, hrepeat, rfl⟩
    exact ⟨rfl, v, hv, firstRepeat_eq_some_iff.mp hrepeat⟩

lemma breaks_mountpoint_iff (c : Customization) (w : Violation) : w.rank = 9 ∧ c.Breaks w ↔
    ∃ as ∈ [c.mountpoints], ∃ mountpoint, firstRepeat as = some mountpoint
      ∧ w = .duplicateMountpoint mountpoint := by
  constructor
  · rintro ⟨hrank, hw⟩
    obtain ⟨mountpoint, rfl⟩ : ∃ mountpoint, w = .duplicateMountpoint mountpoint := by
      cases w <;> simp_all [Violation.rank]
    exact ⟨_, List.mem_singleton_self _, mountpoint, firstRepeat_eq_some_iff.mpr hw, rfl⟩
  · rintro ⟨as, has, mountpoint, hrepeat, rfl⟩
    obtain rfl := List.mem_singleton.mp has
    exact ⟨rfl, firstRepeat_eq_some_iff.mp hrepeat⟩

/-- The check finds the violation of the first broken rule. -/
lemma isFirstBelow_violations (c : Customization) : c.IsFirstBelow 10 c.violations.head? := by
  have h₁ : c.IsFirstBelow 1
      (if c.btrfs.isSome && c.lvm.isSome then [.btrfsAndLvm] else []).head? :=
    isFirstBelow_ite (by decide) (by simp [Breaks, Option.ne_none_iff_isSome])
      fun w _ => Nat.zero_le w.rank
  have h₂ := h₁.append (m := 2) (by decide) fun hkept =>
    isFirstBelow_ite (P := c.btrfsVolumes.length > 1) (v := .manyBtrfsVolumes) (by decide) Iff.rfl
      hkept
  have h₃ := h₂.append (m := 3) (by decide) fun hkept =>
    isFirstBelow_ite (P := c.volumeGroups.length > 1) (v := .manyVolumeGroups) (by decide) Iff.rfl
      hkept
  have h₄ := h₃.append (m := 4) (by decide) fun hkept =>
    isFirstBelow_ite (P := c.plainFilesystems.any (·.mountpoint == ""))
      (v := .emptyFilesystemMountpoint) (by decide) (by simp [Breaks]) hkept
  have h₅ := h₄.append (m := 5) (by decide) fun hkept =>
    isFirstBelow_ite (P := c.logicalMountpoints.contains "")
      (v := .emptyLogicalMountpoint) (by decide) (by simp [Breaks, logicalMountpoints]) hkept
  have h₆ : c.IsFirstBelow 7 (_ ++ c.btrfsVolumes.filterMap (·.emptyText?)).head? :=
    h₅.append (by decide) fun hkept => by
      -- a second volume would have broken the rule against many
      have hcount : c.btrfsVolumes.length ≤ 1 := by
        by_contra hmany
        have hle := hkept .manyBtrfsVolumes (Nat.lt_of_not_le hmany)
        exact absurd hle (by decide)
      rw [head?_emptyTexts hcount]
      have hmountpoint := isFirstBelow_ite (c := c)
        (P := ∃ v ∈ c.btrfsVolumes, ∃ s ∈ v.subvolumes, s.mountpoint = "")
        (v := .emptySubvolumeMountpoint) (by decide) Iff.rfl hkept
      exact hmountpoint.append (by decide) fun hkept =>
        isFirstBelow_ite (v := .emptySubvolumeName) (by decide) Iff.rfl hkept
  have h₇ := h₆.append (m := 8) (by decide) fun hkept =>
    isFirstBelow_filterMap c.volumeGroups (·.repeatedName)
      (fun g name => .duplicateLogicalVolume name g.name) hkept (breaks_volume_iff c)
  have h₈ := h₇.append (m := 9) (by decide) fun hkept =>
    isFirstBelow_filterMap c.btrfsVolumes (·.repeatedName) (fun _ => .duplicateSubvolume) hkept
      (breaks_subvolume_iff c)
  refine h₈.append (by decide) fun hkept => ?_
  have hmountpoint := isFirstBelow_filterMap [c.mountpoints] firstRepeat
    (fun _ => .duplicateMountpoint) hkept (breaks_mountpoint_iff c)
  have hblock : [c.mountpoints].filterMap (fun as => (firstRepeat as).map .duplicateMountpoint) =
      ((firstRepeat c.mountpoints).map Violation.duplicateMountpoint).toList := by
    rcases h : firstRepeat c.mountpoints with _ | a
    · simp [h]
    · simp [h]
  rwa [hblock] at hmountpoint

/-! ## One first violation -/

lemma eq_of_mem_of_length_le_one {α : Type} {as : List α} (h : as.length ≤ 1) {a b : α}
    (ha : a ∈ as) (hb : b ∈ as) : a = b := by
  obtain ⟨i, hi, rfl⟩ := List.getElem_of_mem ha
  obtain ⟨j, hj, rfl⟩ := List.getElem_of_mem hb
  have hij : i = j := by omega
  subst hij
  rfl

/-- Two violations of the first broken rule are the same one. -/
lemma eq_of_isFirst {v w : Violation} (hv : c.Breaks v) (hw : c.Breaks w)
    (hfirst : ∀ u, c.Breaks u → v.rank ≤ u.rank) (hrank : w.rank = v.rank) : w = v := by
  by_cases hrepeat : v.rank < 7
  · exact Violation.eq_of_rank_eq hrepeat hrank
  · -- the rules against many groups and volumes are kept, so both repeats are in the same one
    have hgroups : c.volumeGroups.length ≤ 1 := by
      by_contra hmany
      have hle : v.rank ≤ 2 := hfirst .manyVolumeGroups (Nat.lt_of_not_le hmany)
      omega
    have hvolumes : c.btrfsVolumes.length ≤ 1 := by
      by_contra hmany
      have hle : v.rank ≤ 1 := hfirst .manyBtrfsVolumes (Nat.lt_of_not_le hmany)
      omega
    have hlt := v.rank_lt
    have hcases : v.rank = 7 ∨ v.rank = 8 ∨ v.rank = 9 := by omega
    rcases hcases with h | h | h
    · obtain ⟨g, hg, name, hname, rfl⟩ := (breaks_volume_iff c v).mp ⟨h, hv⟩
      obtain ⟨g', hg', name', hname', rfl⟩ := (breaks_volume_iff c w).mp ⟨hrank.trans h, hw⟩
      obtain rfl := eq_of_mem_of_length_le_one hgroups hg hg'
      rw [hname] at hname'
      rw [Option.some.inj hname']
    · obtain ⟨g, hg, name, hname, rfl⟩ := (breaks_subvolume_iff c v).mp ⟨h, hv⟩
      obtain ⟨g', hg', name', hname', rfl⟩ := (breaks_subvolume_iff c w).mp ⟨hrank.trans h, hw⟩
      obtain rfl := eq_of_mem_of_length_le_one hvolumes hg hg'
      rw [hname] at hname'
      rw [Option.some.inj hname']
    · obtain ⟨as, has, name, hname, rfl⟩ := (breaks_mountpoint_iff c v).mp ⟨h, hv⟩
      obtain ⟨as', has', name', hname', rfl⟩ :=
        (breaks_mountpoint_iff c w).mp ⟨hrank.trans h, hw⟩
      obtain rfl := List.mem_singleton.mp has
      obtain rfl := List.mem_singleton.mp has'
      rw [hname] at hname'
      rw [Option.some.inj hname']

/-- **The check decides exactly the structural rules, the first violation first.**  A customization
is accepted when no rule is broken; else the violation of the broken rule of least rank is given,
and that is the only one of its rank. -/
theorem validate_decides (c : Customization) :
    (c.validate = .ok () ↔ ∀ v, ¬ c.Breaks v)
      ∧ ∀ v, c.validate = .error (.invalid v) ↔
        c.Breaks v ∧ ∀ w, c.Breaks w → v.rank ≤ w.rank := by
  have hfound := c.isFirstBelow_violations
  rw [validate]
  generalize c.violations.head? = found at hfound ⊢
  rcases found with _ | v
  · have hnone : ∀ w, ¬ c.Breaks w := fun w hw => absurd (hfound w hw) (Nat.not_le.mpr w.rank_lt)
    simp [hnone]
  · obtain ⟨-, hv, hfirst⟩ := hfound
    refine ⟨?_, fun w => ?_⟩
    · simp only [reduceCtorEq, false_iff, not_forall, not_not]
      exact ⟨v, hv⟩
    · rw [Except.error.injEq, PlanError.invalid.injEq]
      constructor
      · rintro rfl
        exact ⟨hv, hfirst⟩
      · rintro ⟨hw, hleast⟩
        exact (eq_of_isFirst hv hw hfirst (Nat.le_antisymm (hleast v hv) (hfirst w hw))).symm

/-- An empty mountpoint counts before a repeated one that is declared ahead of it. -/
example : (ofPlain [{ mountpoint := "/a" }, { mountpoint := "/a" }, { mountpoint := "" }]).validate
    = .error (.invalid .emptyFilesystemMountpoint) := by decide

end Customization
end DiskPlan
