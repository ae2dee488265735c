import DiskPlan.Size.Checked
import Mathlib.Tactic.Common

/-!
# Computations that are exact up to the limit

Planning adds and rounds byte counts that must stay below the limit of a disk.  Such a computation
is *exact* when it gives the value that unbounded natural numbers give, as long as that value fits,
and is refused for its size in every other case.  Exact computations compose (`Exact.bind`,
`Exact.mapM`), so what a whole plan does follows from the two primitive operations, `sum` and
`align`.
-/
namespace DiskPlan

/-! ## Computations that can fail -/

section Except

variable {ε α β : Type}

@[simp] lemma ok_bind (a : α) (f : α → Except ε β) : (.ok a >>= f) = f a := rfl

@[simp] lemma error_bind (e : ε) (f : α → Except ε β) : (.error e >>= f) = .error e := rfl

/-- A sequence succeeds when its first part does and what follows from there. -/
lemma bind_eq_ok_iff {r : Except ε α} {f : α → Except ε β} {b : β} :
    (r >>= f) = .ok b ↔ ∃ a, r = .ok a ∧ f a = .ok b := by
  rcases r with e | a
  · simp
  · simp

end Except

namespace Size

lemma limit_pos : 0 < limit := by decide

/-! ## Rounding -/

lemma roundUp_lt {grain : Nat} (bytes : Nat) (h : 0 < grain) :
    roundUp bytes grain < bytes + grain := by
  have hle := Nat.div_mul_le_self (bytes + (grain - 1)) grain
  rw [roundUp]
  omega

lemma roundUp_mono {a b grain : Nat} (hg : 0 < grain) (h : a ≤ b) :
    roundUp a grain ≤ roundUp b grain :=
  roundUp_le_of_dvd (Nat.le_trans h (le_roundUp b hg)) (dvd_roundUp b grain)

lemma max_roundUp {a b grain : Nat} (hg : 0 < grain) :
    max (roundUp a grain) (roundUp b grain) = roundUp (max a b) grain := by
  rcases Nat.le_total a b with h | h
  · rw [Nat.max_eq_right h, Nat.max_eq_right (roundUp_mono hg h)]
  · rw [Nat.max_eq_left h, Nat.max_eq_left (roundUp_mono hg h)]

/-- Rounding keeps what is a multiple already. -/
lemma roundUp_eq_self {bytes grain : Nat} (hg : 0 < grain) (h : grain ∣ bytes) :
    roundUp bytes grain = bytes :=
  Nat.le_antisymm (roundUp_le_of_dvd (Nat.le_refl bytes) h) (le_roundUp bytes hg)

/-- A multiple of the grain passes through rounding. -/
lemma add_roundUp {a grain : Nat} (hg : 0 < grain) (h : grain ∣ a) (bytes : Nat) :
    a + roundUp bytes grain = roundUp (a + bytes) grain := by
  obtain ⟨k, rfl⟩ := h
  rw [roundUp, roundUp, Nat.add_assoc, Nat.mul_add_div hg, Nat.add_mul, Nat.mul_comm k]

lemma roundUp_eq_grain {bytes grain : Nat} (hpos : 0 < bytes) (hle : bytes ≤ grain) :
    roundUp bytes grain = grain := by
  have hge : bytes ≤ roundUp bytes grain := le_roundUp bytes (by omega)
  refine Nat.le_antisymm (roundUp_le_of_dvd hle (Nat.dvd_refl grain)) ?_
  exact Nat.le_of_dvd (by omega) (dvd_roundUp bytes grain)

/-- Giving a footer away, rounding what is left and adding the footer again leads back to the whole,
or to one grain more when the footer is off the grain. -/
lemma roundUp_sub_add {total footer grain : Nat} (hg : 0 < grain) (htotal : grain ∣ total)
    (hle : footer ≤ total) :
    roundUp (roundUp (total - footer) grain + footer) grain =
      if grain ∣ footer then total else total + grain := by
  split
  · next hfooter =>
    have hleft : grain ∣ total - footer := Nat.dvd_sub htotal hfooter
    rw [roundUp_eq_self hg hleft, Nat.sub_add_cancel hle, roundUp_eq_self hg htotal]
  · next hfooter =>
    obtain ⟨k, rfl⟩ := htotal
    have hdiv := Nat.div_add_mod footer grain
    have hrest := Nat.mod_lt footer hg
    have hoff : footer % grain ≠ 0 := fun h => hfooter (Nat.dvd_of_mod_eq_zero h)
    have hwhole : footer / grain < k := by
      by_contra hnot
      have hmul : grain * k ≤ grain * (footer / grain) := Nat.mul_le_mul_left _ (by omega)
      omega
    -- the part of the footer beyond its whole grains is what the rounding fills up
    obtain ⟨j, rfl⟩ : ∃ j, k = footer / grain + 1 + j := ⟨k - (footer / grain + 1), by omega⟩
    have hsplit : grain * (footer / grain + 1 + j) - footer =
        grain * j + (grain - footer % grain) := by
      rw [Nat.mul_add, Nat.mul_add]
      omega
    have hagain : grain * j + grain + footer =
        grain * (footer / grain + 1 + j) + footer % grain := by
      rw [Nat.mul_add, Nat.mul_add]
      omega
    have hfill : roundUp (grain - footer % grain) grain = grain :=
      roundUp_eq_grain (by omega) (by omega)
    have hoffset : roundUp (footer % grain) grain = grain :=
      roundUp_eq_grain (by omega) (by omega)
    rw [hsplit, ← add_roundUp hg (Nat.dvd_mul_right _ _), hfill, hagain,
      ← add_roundUp hg (Nat.dvd_mul_right _ _), hoffset]

/-! ## Totals -/

section Total

variable {α : Type} {size : α → Nat} {as bs : List α}

/-- The sizes of some things together. -/
def total (size : α → Nat) : List α → Nat
  | [] => 0
  | a :: as => size a + total size as

@[simp] lemma total_nil : total size [] = 0 := rfl

@[simp] lemma total_cons (a : α) : total size (a :: as) = size a + total size as := rfl

lemma total_map {β : Type} (f : β → α) (bs : List β) :
    total size (bs.map f) = total (fun b => size (f b)) bs := by
  induction bs with
  | nil => rfl
  | cons b bs ih => rw [List.map_cons, total_cons, total_cons, ih]

/-- Totals depend on what is counted only. -/
lemma total_eq_of_map_eq {β : Type} {f : β → α} {bs cs : List β} (h : bs.map f = cs.map f) :
    total (fun b => size (f b)) bs = total (fun b => size (f b)) cs := by
  rw [← total_map f bs, ← total_map f cs, h]

lemma total_perm (h : as.Perm bs) : total size as = total size bs := by
  induction h with
  | nil => rfl
  | cons a _ ih => rw [total_cons, total_cons, ih]
  | swap a b as =>
    simp only [total_cons]
    omega
  | trans _ _ ih₁ ih₂ => rw [ih₁, ih₂]

lemma total_mono {size' : α → Nat} (h : ∀ a ∈ as, size' a ≤ size a) :
    total size' as ≤ total size as := by
  induction as with
  | nil => exact Nat.le_refl _
  | cons a as ih =>
    obtain ⟨ha, has⟩ := List.forall_mem_cons.mp h
    have hle := ih has
    rw [total_cons, total_cons]
    omega

/-- The size of each thing is a part of the total. -/
lemma le_total (size : α → Nat) {a : α} (h : a ∈ as) : size a ≤ total size as := by
  induction as with
  | nil => cases h
  | cons b as ih =>
    rw [total_cons]
    rcases List.mem_cons.mp h with rfl | h
    · omega
    · have hle := ih h
      omega

end Total

/-! ## Exact computations -/

/-- A computation gives `value` when `fits` holds, and is refused for its size when not. -/
structure Exact {α : Type} (r : Except PlanError α) (fits : Prop) (value : α) : Prop where
  eq_ok : fits → r = .ok value
  eq_overflow : ¬ fits → ∃ requested, r = .error (.overflow requested)

namespace Exact

variable {α β : Type} {r : Except PlanError α} {fits fits' : Prop} {value : α}

lemma ok (h : fits) : Exact (.ok value) fits value :=
  ⟨fun _ => rfl, fun hn => absurd h hn⟩

lemma congr (h : Exact r fits value) (hf : fits ↔ fits') : Exact r fits' value :=
  ⟨fun h' => h.eq_ok (hf.mpr h'), fun h' => h.eq_overflow (fun hfits => h' (hf.mp hfits))⟩

lemma eq_of_ok (h : Exact r fits value) {a : α} (ha : r = .ok a) : a = value := by
  by_cases hfits : fits
  · exact Except.ok.inj (ha.symm.trans (h.eq_ok hfits))
  · obtain ⟨requested, herr⟩ := h.eq_overflow hfits
    rw [ha] at herr
    cases herr

/-- A computation that continues an exact one is exact, when it fits only if the first part does. -/
lemma bind {f : α → Except PlanError β} {result : β} (hr : Exact r fits value)
    (hf : fits → Exact (f value) fits' result) (h : fits' → fits) :
    Exact (r >>= f) fits' result := by
  -- where the first part does not fit, the whole does not either
  by_cases hfits : fits
  · have hbind : (r >>= f) = f value := by rw [hr.eq_ok hfits]; rfl
    rw [hbind]
    exact hf hfits
  · obtain ⟨requested, herr⟩ := hr.eq_overflow hfits
    refine ⟨fun h' => absurd (h h') hfits, fun _ => ⟨requested, ?_⟩⟩
    rw [herr, error_bind]

lemma map (h : Exact r fits value) (f : α → β) : Exact (r.map f) fits (f value) :=
  ⟨fun hf => by rw [h.eq_ok hf]; rfl,
    fun hf => (h.eq_overflow hf).imp fun requested hr => by rw [hr]; rfl⟩

/-- Exact computations on the elements of a list make an exact computation on the list. -/
lemma mapM {f : α → Except PlanError β} {fits : α → Prop} {g : α → β} {as : List α}
    (h : ∀ a ∈ as, Exact (f a) (fits a) (g a)) :
    Exact (as.mapM f) (∀ a ∈ as, fits a) (as.map g) := by
  induction as with
  | nil => exact .ok (by simp)
  | cons a as ih =>
    rw [List.mapM_cons, List.map_cons]
    refine (h a List.mem_cons_self).bind (fun ha => ?_) (fun hall => hall a List.mem_cons_self)
    have ih' := ih fun b hb => h b (List.mem_cons_of_mem a hb)
    refine ih'.bind (fun has => .ok ?_) (fun hall b hb => hall b (List.mem_cons_of_mem a hb))
    exact List.forall_mem_cons.mpr ⟨ha, has⟩

end Exact

/-! ## The primitive operations -/

lemma exact_sum (a b requested : Nat) : Exact (sum a b requested) (a + b < limit) (a + b) := by
  by_cases h : a + b < limit
  · exact ⟨fun _ => by rw [sum, add?_eq_some_iff.mpr ⟨rfl, h⟩], fun hn => absurd h hn⟩
  · exact ⟨fun hn => absurd hn h, fun _ => ⟨requested, by simp [sum, add?, fit?, h]⟩⟩

lemma exact_align {grain : Nat} (bytes requested : Nat) (hg : 0 < grain) :
    Exact (align bytes grain requested) (roundUp bytes grain < limit) (roundUp bytes grain) := by
  have hg' : grain ≠ 0 := Nat.ne_of_gt hg
  by_cases h : roundUp bytes grain < limit
  · exact ⟨fun _ => by rw [align, alignUp?_eq_some_iff.mpr ⟨hg', rfl, h⟩], fun hn => absurd h hn⟩
  · exact ⟨fun hn => absurd hn h, fun _ => ⟨requested, by simp [align, alignUp?, fit?, hg', h]⟩⟩

end Size
end DiskPlan
