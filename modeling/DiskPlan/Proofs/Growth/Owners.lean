import DiskPlan.Proofs.Growth.Exact
import Mathlib.Algebra.GroupWithZero.Nat

/-!
# The owners of directories

A directory is owned by the longest mountpoint that holds it.  All mountpoints that hold an absolute
directory are beginnings of it, so two of them that are equally long are the same one: the owner is
unique, and it does not depend on the order in which the mountpoints are listed.  What a mountpoint
is charged for is the sum of the directories that it owns (`amount_chargeAll`).
-/
namespace DiskPlan

/-! ## The longest mountpoint -/

namespace Path

/-- `m` is the longest of the mountpoints that hold `dir`. -/
def IsOwner (mountpoints : List String) (dir m : String) : Prop :=
  m ∈ mountpoints ∧ holds m dir = true
    ∧ ∀ m' ∈ mountpoints, holds m' dir = true → m'.utf8ByteSize ≤ m.utf8ByteSize

instance (mountpoints : List String) (dir m : String) : Decidable (IsOwner mountpoints dir m) :=
  inferInstanceAs (Decidable (_ ∧ _ ∧ _))

lemma longer_spec (best : Option String) (candidate : String) :
    ∃ m, longer best candidate = some m ∧ candidate.utf8ByteSize ≤ m.utf8ByteSize
      ∧ ∀ b, best = some b → b.utf8ByteSize ≤ m.utf8ByteSize := by
  rcases best with _ | b
  · exact ⟨candidate, rfl, Nat.le_refl _, by simp⟩
  · by_cases hle : b.utf8ByteSize ≤ candidate.utf8ByteSize
    · refine ⟨candidate, by simp [longer, hle], Nat.le_refl _, ?_⟩
      intro b' hb'
      obtain rfl := Option.some.inj hb'
      exact hle
    · refine ⟨b, by simp [longer, hle], by omega, ?_⟩
      intro b' hb'
      obtain rfl := Option.some.inj hb'
      exact Nat.le_refl _

/-- A walk ends with nothing shorter than what it started from and what it saw. -/
lemma le_of_foldl_longer {best : Option String} {candidates : List String} {m c : String}
    (h : candidates.foldl longer best = some m) (hc : best = some c ∨ c ∈ candidates) :
    c.utf8ByteSize ≤ m.utf8ByteSize := by
  induction candidates generalizing best c with
  | nil =>
    rcases hc with hbest | hmem
    · have hsome : some c = some m := hbest.symm.trans h
      obtain rfl := Option.some.inj hsome
      exact Nat.le_refl _
    · cases hmem
  | cons a as ih =>
    -- the walk goes on from `x`, which is shorter neither than the head nor than the best so far
    obtain ⟨x, hx, ha, hbest⟩ := longer_spec best a
    rw [List.foldl_cons, hx] at h
    have hxm : x.utf8ByteSize ≤ m.utf8ByteSize := ih h (.inl rfl)
    rcases hc with hc | hc
    · exact Nat.le_trans (hbest c hc) hxm
    · rcases List.mem_cons.mp hc with rfl | hc
      · exact Nat.le_trans ha hxm
      · exact ih h (.inr hc)

lemma exists_foldl_longer {best : Option String} {candidates : List String}
    (h : best.isSome ∨ candidates ≠ []) : ∃ m, candidates.foldl longer best = some m := by
  induction candidates generalizing best with
  | nil => exact Option.isSome_iff_exists.mp (h.resolve_right (by simp))
  | cons a as ih =>
    obtain ⟨x, hx, -⟩ := longer_spec best a
    rw [List.foldl_cons, hx]
    exact ih (.inl rfl)

lemma isOwner_of_deepest {mountpoints : List String} {dir m : String}
    (h : deepest mountpoints dir = some m) : IsOwner mountpoints dir m := by
  have hmem : m ∈ mountpoints.filter (holds · dir) := by
    rcases mem_of_foldl_longer h with hnone | hmem
    · cases hnone
    · exact hmem
  obtain ⟨hm, hholds⟩ := List.mem_filter.mp hmem
  refine ⟨hm, hholds, fun m' hm' hholds' => ?_⟩
  exact le_of_foldl_longer h (.inr (List.mem_filter.mpr ⟨hm', hholds'⟩))

lemma exists_deepest {mountpoints : List String} {dir m : String} (hm : m ∈ mountpoints)
    (h : holds m dir = true) : ∃ m', deepest mountpoints dir = some m' := by
  have hmem : m ∈ mountpoints.filter (holds · dir) := List.mem_filter.mpr ⟨hm, h⟩
  exact exists_foldl_longer (.inr (List.ne_nil_of_mem hmem))

/-! ## One owner -/

/-- The text of an absolute path starts with a slash. -/
lemma exists_toList_eq_cons {path : String} (habs : isAbsolute path = true) :
    ∃ rest, path.toList = '/' :: rest :=
  List.head?_eq_some_iff.mp (by simpa [isAbsolute] using habs)

/-- What holds an absolute directory is a beginning of it. -/
lemma prefix_of_holds {m dir : String} (habs : isAbsolute dir = true) (h : holds m dir = true) :
    m.toList <+: dir.toList := by
  simp only [holds, Bool.or_eq_true, beq_iff_eq, List.isPrefixOf_iff_prefix] at h
  rcases h with (rfl | rfl) | h
  · exact List.prefix_refl _
  · obtain ⟨rest, hrest⟩ := exists_toList_eq_cons habs
    exact ⟨rest, hrest.symm⟩
  · exact (List.prefix_append _ _).trans h

lemma eq_of_leading {a b : String} (h : a.toList <+: b.toList)
    (hsize : a.utf8ByteSize = b.utf8ByteSize) : a = b := by
  obtain ⟨rest, hrest⟩ := h
  have hb : b = a ++ String.ofList rest := by
    rw [← String.ofList_toList (s := b), ← hrest, String.ofList_append, String.ofList_toList]
  have hzero : (String.ofList rest).utf8ByteSize = 0 := by
    rw [hb, String.utf8ByteSize_append] at hsize
    omega
  rw [hb, String.utf8ByteSize_eq_zero_iff.mp hzero, String.append_empty]

lemma IsOwner.unique {mountpoints : List String} {dir m m' : String}
    (habs : isAbsolute dir = true) (h : IsOwner mountpoints dir m)
    (h' : IsOwner mountpoints dir m') : m = m' := by
  have hsize : m.utf8ByteSize = m'.utf8ByteSize :=
    Nat.le_antisymm (h'.2.2 m h.1 h.2.1) (h.2.2 m' h'.1 h'.2.1)
  -- both are beginnings of the directory, so one of them is a beginning of the other
  rcases List.prefix_or_prefix_of_prefix (prefix_of_holds habs h.2.1)
    (prefix_of_holds habs h'.2.1) with hleading | hleading
  · exact eq_of_leading hleading hsize
  · exact (eq_of_leading hleading hsize.symm).symm

/-- The walk over the mountpoints finds the owner of an absolute directory. -/
lemma deepest_eq_some_iff {mountpoints : List String} {dir m : String}
    (habs : isAbsolute dir = true) :
    deepest mountpoints dir = some m ↔ IsOwner mountpoints dir m := by
  constructor
  · exact isOwner_of_deepest
  · intro h
    obtain ⟨m', hm'⟩ := exists_deepest h.1 h.2.1
    have howner : IsOwner mountpoints dir m' := isOwner_of_deepest hm'
    rw [h.unique habs howner]
    exact hm'

lemma isOwner_congr {mountpoints mountpoints' : List String}
    (h : ∀ m, m ∈ mountpoints ↔ m ∈ mountpoints') (dir m : String) :
    IsOwner mountpoints dir m ↔ IsOwner mountpoints' dir m := by
  simp only [IsOwner, h]

end Path

/-! ## What is owed to a mountpoint -/

/-- The sizes of the directories that a mountpoint owns, together. -/
def owed (mountpoints : List String) (required : PathMap Nat) (m : String) : Nat :=
  ((required.entries.filter fun e => Path.IsOwner mountpoints e.1 m).map (·.2)).sum

lemma owed_congr {mountpoints mountpoints' : List String}
    (h : ∀ m, m ∈ mountpoints ↔ m ∈ mountpoints') (required : PathMap Nat) :
    owed mountpoints required = owed mountpoints' required := by
  funext m
  simp only [owed, Path.isOwner_congr h]

/-- Each directory is added to the charge of its owner. -/
lemma amount_chargeAll {mountpoints : List String} {charges : PathMap Nat}
    {needs : List (String × Nat)} (habs : ∀ e ∈ needs, Path.isAbsolute e.1 = true) (m : String) :
    (chargeAll mountpoints charges needs).amount m =
      charges.amount m
        + ((needs.filter fun e => Path.IsOwner mountpoints e.1 m).map (·.2)).sum := by
  induction needs generalizing charges with
  | nil => rfl
  | cons need needs ih =>
    obtain ⟨dir, size⟩ := need
    obtain ⟨hdir, hrest⟩ := List.forall_mem_cons.mp habs
    have hfound : ∀ o, Path.deepest mountpoints dir = some o ↔ Path.IsOwner mountpoints dir o :=
      fun o => Path.deepest_eq_some_iff hdir
    rw [chargeAll]
    -- the first directory is charged to its owner, which is `m` or another mountpoint or none
    by_cases howner : Path.IsOwner mountpoints dir m
    · rw [(hfound m).mpr howner]
      dsimp only
      rw [ih hrest, PathMap.amount_insert, if_pos rfl,
        List.filter_cons_of_pos (by simpa using howner), List.map_cons, List.sum_cons]
      omega
    · rw [List.filter_cons_of_neg (by simpa using howner)]
      split
      · exact ih hrest
      · next o ho =>
        have hne : m ≠ o := fun h => howner ((hfound m).mp (h ▸ ho))
        rw [ih hrest, PathMap.amount_insert, if_neg hne]

/-- The charges of a table are what is owed to its mountpoints. -/
lemma Table.amount_chargesOf (t : Table) {required : PathMap Nat}
    (habs : ∀ e ∈ required.entries, Path.isAbsolute e.1 = true) :
    (t.chargesOf required).amount = owed t.mountpoints required := by
  funext m
  have hempty : PathMap.empty.amount m = 0 := rfl
  rw [chargesOf, amount_chargeAll habs, hempty, Nat.zero_add, owed]

end DiskPlan
