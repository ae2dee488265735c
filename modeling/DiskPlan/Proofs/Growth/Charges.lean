import DiskPlan.Proofs.Size.Exact
import DiskPlan.Table.Growth

/-!
# Charging directories

The needs of directories are added up at their owners among the mountpoints.  Charges only grow, so
the sums that are taken on the way fit on a disk when the charges in the end do.
-/
namespace DiskPlan

open Size (limit Exact)

/-- The size kept for a path; zero when there is none. -/
def PathMap.amount (sizes : PathMap Nat) (key : String) : Nat := (sizes.get? key).getD 0

lemma PathMap.amount_insert (sizes : PathMap Nat) (key k : String) (value : Nat) :
    (sizes.insert key value).amount k = if k = key then value else sizes.amount k := by
  rw [amount, get?_insert]
  split
  · rfl
  · rfl

/-! ## The owner of a directory -/

namespace Path

/-- What a walk ends with is what it started from or something that it saw. -/
lemma mem_of_foldl_longer {best : Option String} {candidates : List String} {m : String}
    (h : candidates.foldl longer best = some m) : best = some m ∨ m ∈ candidates := by
  induction candidates generalizing best with
  | nil => exact .inl h
  | cons c cs ih =>
    rw [List.foldl_cons] at h
    rcases ih h with hlonger | hmem
    · rcases best with _ | b
      · obtain rfl := Option.some.inj hlonger
        exact .inr List.mem_cons_self
      · unfold longer at hlonger
        dsimp only at hlonger
        split at hlonger
        · obtain rfl := Option.some.inj hlonger
          exact .inr List.mem_cons_self
        · exact .inl hlonger
    · exact .inr (List.mem_cons_of_mem c hmem)

/-- The owner of a directory is one of the mountpoints. -/
lemma mem_of_deepest {mountpoints : List String} {dir m : String}
    (h : deepest mountpoints dir = some m) : m ∈ mountpoints := by
  rcases mem_of_foldl_longer h with hnone | hmem
  · cases hnone
  · exact (List.mem_filter.mp hmem).1

end Path

/-! ## Charges -/

/-- The charges of the mountpoints, with the needs of directories added to those of their
owners. -/
def chargeAll (mountpoints : List String) : PathMap Nat → List (String × Nat) → PathMap Nat
  | charges, [] => charges
  | charges, (dir, size) :: rest =>
    match Path.deepest mountpoints dir with
    | none => chargeAll mountpoints charges rest
    | some owner =>
      chargeAll mountpoints (charges.insert owner (charges.amount owner + size)) rest

section Charges

variable {mountpoints : List String} {charges : PathMap Nat} {needs : List (String × Nat)}

/-- Charges only grow. -/
lemma amount_le_chargeAll (k : String) :
    charges.amount k ≤ (chargeAll mountpoints charges needs).amount k := by
  induction needs generalizing charges with
  | nil => exact Nat.le_refl _
  | cons need needs ih =>
    rw [chargeAll]
    split
    · exact ih
    · next owner howner =>
      refine Nat.le_trans ?_ ih
      rw [PathMap.amount_insert]
      split
      · next heq =>
        rw [heq]
        omega
      · exact Nat.le_refl _

/-- Only mountpoints are charged. -/
lemma mem_of_chargeAll {k : String} (hcharges : ∀ j, charges.amount j ≠ 0 → j ∈ mountpoints)
    (h : (chargeAll mountpoints charges needs).amount k ≠ 0) : k ∈ mountpoints := by
  induction needs generalizing charges with
  | nil => exact hcharges k h
  | cons need needs ih =>
    rw [chargeAll] at h
    split at h
    · exact ih hcharges h
    · next owner howner =>
      refine ih ?_ h
      intro j hj
      rw [PathMap.amount_insert] at hj
      split at hj
      · next heq =>
        rw [heq]
        exact Path.mem_of_deepest howner
      · exact hcharges j hj

lemma exact_addCharges (hcharges : ∀ k, charges.amount k < limit) :
    Exact (addCharges mountpoints charges needs)
      (∀ k, (chargeAll mountpoints charges needs).amount k < limit)
      (chargeAll mountpoints charges needs) := by
  induction needs generalizing charges with
  | nil => exact .ok hcharges
  | cons need needs ih =>
    obtain ⟨dir, size⟩ := need
    rw [addCharges, chargeAll]
    rcases Path.deepest mountpoints dir with _ | owner
    · exact ih hcharges
    · refine (Size.exact_sum (charges.amount owner) size size).bind (fun hsum => ih ?_) ?_
      · intro k
        rw [PathMap.amount_insert]
        split
        · exact hsum
        · exact hcharges k
      · intro hfit
        -- the sum is the charge of the owner by now, which only grows from here
        have howner : (charges.insert owner (charges.amount owner + size)).amount owner =
            charges.amount owner + size := by rw [PathMap.amount_insert, if_pos rfl]
        rw [← howner]
        exact Nat.lt_of_le_of_lt (amount_le_chargeAll owner) (hfit owner)

end Charges

end DiskPlan
