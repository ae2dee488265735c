import DiskPlan.Policy
import DiskPlan.Proofs.Paths.Ancestors

/-!
# The nearest policy decides

The policy for a path is found among all policies, as that of the deepest key that holds the path.
The same policy is found on the walk up from the path: it is that of the first directory that has
one (`deciding?_eq_nearest?`).  Keys that are no directories above the path are never reached,
except for the empty one, which comes last.

Whether a customization is accepted is decided for each of its mountpoints alone, and what is
refused is reported once each (`isVerdictOn_checkAll`).
-/
namespace DiskPlan

namespace Policies

/-! ## The nearest policy -/

/-- The first directory on the walk up from a path that has a policy, and that policy. -/
def nearest? (policies : Policies) (path : String) : Option (String × PathPolicy) :=
  (Path.upwards path).findSome? fun key => (policies.get? key).map fun policy => (key, policy)

lemma findSome?_eq_bind_find? {α β : Type} {f : α → Option β} {test : α → Bool}
    (h : ∀ a, test a = (f a).isSome) (l : List α) : l.findSome? f = (l.find? test).bind f := by
  induction l with
  | nil => rfl
  | cons a l ih =>
    cases hf : f a with
    | none => rw [List.findSome?_cons_of_isNone (by simp [hf]), ih,
        List.find?_cons_of_neg (by simp [h, hf])]
    | some b => rw [List.findSome?_cons_of_isSome (by simp [hf]),
        List.find?_cons_of_pos (by simp [h, hf]), Option.bind_some]

/-- **The policy of the deepest key that holds a path is the nearest on the walk up.** -/
theorem deciding?_eq_nearest? (policies : Policies) {path : String}
    (habs : Path.isAbsolute path = true) (hcan : Path.isCanonical path = true) :
    policies.deciding? path = policies.nearest? path := by
  have htest (key : String) : decide (key ∈ policies.keys)
      = ((policies.get? key).map fun policy => (key, policy)).isSome := by
    rw [Option.isSome_map, Bool.eq_iff_iff, decide_eq_true_iff]
    exact policies.mem_keys_iff key
  rw [nearest?, findSome?_eq_bind_find? htest, ← Path.deepest_eq_find? habs hcan]
  simp only [Option.map_eq_bind]
  rfl

/-- A mountpoint is accepted when it is absolute and canonical and the nearest policy allows it. -/
lemma check_eq_ok_iff (policies : Policies) (path : String) :
    policies.check path = .ok () ↔
      Path.isAbsolute path = true ∧ Path.isCanonical path = true ∧
        ∃ key policy, policies.nearest? path = some (key, policy) ∧ policy.deny = false
          ∧ (policy.exact = false ∨ key = path) := by
  by_cases habs : Path.isAbsolute path = true
  · by_cases hcan : Path.isCanonical path = true
    · rw [check, policies.deciding?_eq_nearest? habs hcan]
      rcases policies.nearest? path with _ | ⟨key, policy⟩
      · simp [habs, hcan]
      · have hexact : (policy.exact = false ∨ key = path) ↔
            (policy.exact = true → key = path) := by
          cases policy.exact <;> simp
        simp [habs, hcan, allows, hexact]
    · simp [check, habs, hcan]
  · simp [check, habs]

/-- What is refused is reported as not absolute, or else as not canonical, or else as not allowed. -/
lemma check_eq_error_iff (policies : Policies) (path : String) (violation : PathViolation) :
    policies.check path = .error violation ↔ policies.check path ≠ .ok () ∧ violation =
      if Path.isAbsolute path = false then .notAbsolute path
      else if Path.isCanonical path = false then .notCanonical path
      else .notAllowed path := by
  cases habs : Path.isAbsolute path with
  | false => simp [check, habs, eq_comm]
  | true =>
    cases hcan : Path.isCanonical path with
    | false => simp [check, habs, hcan, eq_comm]
    | true =>
      rcases hpolicy : policies.deciding? path with _ | ⟨key, policy⟩
      · simp [check, habs, hcan, hpolicy, eq_comm]
      · cases hallows : allows key policy path with
        | false => simp [check, habs, hcan, hpolicy, hallows, eq_comm]
        | true => simp [check, habs, hcan, hpolicy, hallows]

/-! ## Many mountpoints -/

/-- What policies say of some mountpoints together: they are accepted when each of them is, and
otherwise the violations of those that are refused are reported, one each and in order. -/
structure IsVerdictOn (policies : Policies) (paths : List String) (r : Except PlanError Unit) :
    Prop where
  ok_iff : r = .ok () ↔ ∀ path ∈ paths, policies.check path = .ok ()
  refused : r ≠ .ok () → ∃ violations, r = .error (.refusedMountpoints violations) ∧
    List.Forall₂ (fun path violation => policies.check path = .error violation)
      (paths.filter fun path => policies.check path ≠ .ok ()) violations

lemma violation?_eq_some_iff {policies : Policies} {path : String} {violation : PathViolation} :
    policies.violation? path = some violation ↔ policies.check path = .error violation := by
  unfold violation?
  cases policies.check path <;> simp

lemma violation?_eq_none_iff {policies : Policies} {path : String} :
    policies.violation? path = none ↔ policies.check path = .ok () := by
  unfold violation?
  cases policies.check path <;> simp

/-- Every mountpoint that is refused has its violation. -/
lemma forall₂_violations (policies : Policies) (paths : List String) :
    List.Forall₂ (fun path violation => policies.check path = .error violation)
      (paths.filter fun path => policies.check path ≠ .ok ())
      (paths.filterMap policies.violation?) := by
  induction paths with
  | nil => exact .nil
  | cons path paths ih =>
    rcases hv : policies.violation? path with _ | violation
    · have hok : policies.check path = .ok () := violation?_eq_none_iff.mp hv
      rw [List.filterMap_cons_none hv, List.filter_cons_of_neg (by simp [hok])]
      exact ih
    · have herror : policies.check path = .error violation := violation?_eq_some_iff.mp hv
      rw [List.filterMap_cons_some hv, List.filter_cons_of_pos (by simp [herror])]
      exact .cons herror ih

lemma isVerdictOn_checkAll (policies : Policies) (paths : List String) :
    policies.IsVerdictOn paths (policies.checkAll paths) := by
  have hviolations := forall₂_violations policies paths
  have hnil : paths.filterMap policies.violation? = [] ↔
      ∀ path ∈ paths, policies.check path = .ok () := by
    simp only [List.filterMap_eq_nil_iff, violation?_eq_none_iff]
  rw [checkAll]
  split
  · next h => exact ⟨by simpa using hnil.mp h, by simp⟩
  · next h =>
    have hrefused : ¬ ∀ path ∈ paths, policies.check path = .ok () := fun hall => h (hnil.mpr hall)
    exact ⟨by simpa using hrefused, fun _ => ⟨_, rfl, hviolations⟩⟩

/-- **The nearest policy decides, and all that it refuses is reported.**  A mountpoint is accepted
when it is absolute and canonical and some directory on the walk up from it has a policy, the first
of which neither denies it nor is exact for another directory.  A violation tells the first of these
conditions that fails.  Filesystems, and a customization if there is one, are accepted when all their
mountpoints are; otherwise the violations of those that are refused are reported, one each, in the
order of the document. -/
theorem check_decides_by_nearest (policies : Policies) :
    (∀ path, policies.check path = .ok () ↔
      Path.isAbsolute path = true ∧ Path.isCanonical path = true ∧
        ∃ key policy, policies.nearest? path = some (key, policy) ∧ policy.deny = false
          ∧ (policy.exact = false ∨ key = path)) ∧
    (∀ path violation, policies.check path = .error violation ↔
      policies.check path ≠ .ok () ∧ violation =
        if Path.isAbsolute path = false then .notAbsolute path
        else if Path.isCanonical path = false then .notCanonical path
        else .notAllowed path) ∧
    (∀ filesystems, policies.IsVerdictOn (filesystems.map (·.mountpoint))
      (policies.checkFilesystems filesystems)) ∧
    (∀ c : Option Customization, policies.IsVerdictOn (c.elim [] (·.mountpoints))
      (policies.checkCustomization c)) := by
  refine ⟨policies.check_eq_ok_iff, policies.check_eq_error_iff, fun filesystems => ?_,
    fun c => ?_⟩
  · exact isVerdictOn_checkAll policies _
  · cases c with
    | none => exact isVerdictOn_checkAll policies []
    | some c => exact isVerdictOn_checkAll policies c.mountpoints

end Policies
end DiskPlan
