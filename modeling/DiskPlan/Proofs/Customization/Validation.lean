import DiskPlan.Customization.Validation
import Mathlib.Tactic.Common

/-!
# What the structural rules say

The rules are checked by walks that look for a first offence.  A customization is accepted exactly
when no rule is broken; in particular its mountpoints are distinct.
-/
namespace DiskPlan

/-! ## Repeats -/

/-- A walk finds no repeat when nothing was seen before and nothing occurs twice. -/
lemma firstRepeatAfter_eq_none_iff {seen as : List String} :
    firstRepeatAfter seen as = none ↔ as.Nodup ∧ ∀ a ∈ as, a ∉ seen := by
  induction as generalizing seen with
  | nil => simp [firstRepeatAfter]
  | cons a as ih =>
    rw [firstRepeatAfter]
    by_cases h : a ∈ seen
    · simp [h]
    · rw [if_neg (by simpa using h), ih, List.nodup_cons]
      constructor
      · rintro ⟨hnodup, hseen⟩
        refine ⟨⟨fun ha => hseen a ha List.mem_cons_self, hnodup⟩, ?_⟩
        intro b hb
        rcases List.mem_cons.mp hb with rfl | hb
        · exact h
        · exact fun hmem => hseen b hb (List.mem_cons_of_mem a hmem)
      · rintro ⟨⟨ha, hnodup⟩, hseen⟩
        refine ⟨hnodup, fun b hb hmem => ?_⟩
        rcases List.mem_cons.mp hmem with rfl | hmem
        · exact ha hb
        · exact hseen b (List.mem_cons_of_mem a hb) hmem

lemma firstRepeat_eq_none_iff {as : List String} : firstRepeat as = none ↔ as.Nodup := by
  simp [firstRepeat, firstRepeatAfter_eq_none_iff]

namespace Customization

variable {c : Customization}

/-! ## Accepted customizations -/

lemma validate_eq_ok_iff : c.validate = .ok () ↔ c.violations = [] := by
  rw [validate]
  rcases c.violations with _ | ⟨violation, violations⟩
  · simp
  · simp

/-- Among the mountpoints of an accepted customization none occurs twice. -/
lemma nodup_mountpoints_of_validate (h : c.validate = .ok ()) : c.mountpoints.Nodup := by
  rw [validate_eq_ok_iff, violations, List.append_eq_nil_iff] at h
  have hrepeat : firstRepeat c.mountpoints = none := by simpa using h.2
  exact firstRepeat_eq_none_iff.mp hrepeat

/-- Among the names that an accepted customization gives in a group none occurs twice. -/
lemma nodup_names_of_validate (h : c.validate = .ok ()) {g : VolumeGroupRequest}
    (hg : g ∈ c.volumeGroups) :
    ((g.logicalVolumes.filterMap (·.name)).filter (· != "")).Nodup := by
  rw [validate_eq_ok_iff] at h
  simp only [violations, List.append_eq_nil_iff, List.filterMap_eq_nil_iff] at h
  have hrepeat : g.repeatedName = none := by simpa using h.1.1.2 g hg
  exact firstRepeat_eq_none_iff.mp hrepeat

end Customization
end DiskPlan
