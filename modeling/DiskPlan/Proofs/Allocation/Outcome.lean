import DiskPlan.Proofs.Allocation.Exact

/-!
# The outcomes of allocation

Allocation either puts every partition in its place, at the size that exact arithmetic gives, or
leaves the table as it was.  It refuses a table that is finalized, a sector size that is no power of
two up to the grain, and a size that reaches the limit of a disk or, in strict mode, exceeds a
request.
-/
namespace DiskPlan

open Size (limit)

/-! ## Legal sectors -/

lemma isSectorSize_iff (bytes : Nat) :
    isSectorSize bytes = true ↔ bytes.isPowerOfTwo ∧ bytes ≤ grain := by
  simp only [isSectorSize, List.any_eq_true, List.mem_range, beq_iff_eq, Nat.pow_eq]
  constructor
  · rintro ⟨k, hk, rfl⟩
    exact ⟨⟨k, rfl⟩, Nat.pow_le_pow_right (by decide) (Nat.le_of_lt_succ hk)⟩
  · rintro ⟨⟨k, rfl⟩, hle⟩
    refine ⟨k, Nat.lt_succ_of_le ?_, rfl⟩
    exact (Nat.pow_le_pow_iff_right (n := k) (m := 20) (by decide)).mp hle

lemma sectorSize_pos {bytes : Nat} (h : isSectorSize bytes = true) : 0 < bytes := by
  obtain ⟨hpow, -⟩ := (isSectorSize_iff bytes).mp h
  exact Nat.pos_of_isPowerOfTwo hpow

/-- The grain is a whole number of sectors. -/
lemma sectorSize_dvd_grain {bytes : Nat} (h : isSectorSize bytes = true) : bytes ∣ grain := by
  simp only [isSectorSize, List.any_eq_true, List.mem_range, beq_iff_eq] at h
  obtain ⟨k, hk, rfl⟩ := h
  exact Nat.pow_dvd_pow 2 (Nat.le_of_lt_succ hk)

namespace Table

/-! ## The run of an allocation -/

/-- The steps of an allocation in sequence: two checks, the placement, and only then the changes. -/
lemma run_allocateInPlace (t : Table) (minimum : Nat) (mode : SizingMode) :
    (allocateInPlace minimum mode).run.run t =
      if t.finalized then (.error .alreadyFinalized, t)
      else if isSectorSize t.sectorSize then
        match t.placement minimum mode with
        | .ok (partitions, size) =>
          (.ok (), { t with partitions := partitions.map (·.reportSize), size, finalized := true })
        | .error e => (.error e, t)
      else (.error (.sectorSize t.sectorSize), t) := by
  have hget (f : Table → ExceptT PlanError (StateM Table) Unit) :
      (get >>= f).run.run t = (f t).run.run t := rfl
  rw [allocateInPlace, hget]
  -- what is computed from the table stays closed: opening it would count up to the limit
  generalize t.placement minimum mode = placed
  generalize isSectorSize t.sectorSize = legal
  generalize t.finalized = finalized
  cases finalized <;> cases legal <;> cases placed <;> rfl

variable {t : Table} {minimum : Nat} {mode : SizingMode}

lemma run_of_finalized (hf : t.finalized = true) :
    (allocateInPlace minimum mode).run.run t = (.error .alreadyFinalized, t) := by
  rw [run_allocateInPlace, if_pos hf]

lemma run_of_sectorSize (hf : t.finalized = false) (hs : isSectorSize t.sectorSize = false) :
    (allocateInPlace minimum mode).run.run t = (.error (.sectorSize t.sectorSize), t) := by
  rw [run_allocateInPlace, if_neg (by simp [hf]), if_neg (by simp [hs])]

/-- A table that fits and is not refused as too small gets its exact layout. -/
lemma run_of_fits (hf : t.finalized = false) (hs : isSectorSize t.sectorSize = true)
    (hfit : t.settledSize minimum < limit) (hsmall : ¬ t.IsTooSmall minimum mode) :
    (allocateInPlace minimum mode).run.run t = (.ok (), t.laidOut minimum) := by
  rw [run_allocateInPlace, if_neg (by simp [hf]), if_pos hs,
    placement_eq (sectorSize_pos hs) hfit, if_neg hsmall]
  rfl

lemma run_of_tooSmall (hf : t.finalized = false) (hs : isSectorSize t.sectorSize = true)
    (hfit : t.settledSize minimum < limit) (hsmall : t.IsTooSmall minimum mode) :
    (allocateInPlace minimum mode).run.run t
      = (.error (.geometry t.naturalSize (max minimum t.size)), t) := by
  rw [run_allocateInPlace, if_neg (by simp [hf]), if_pos hs,
    placement_eq (sectorSize_pos hs) hfit, if_pos hsmall]

lemma run_of_overflow (mode : SizingMode) (hf : t.finalized = false)
    (hs : isSectorSize t.sectorSize = true) (hfit : ¬ t.settledSize minimum < limit) :
    ∃ requested, (allocateInPlace minimum mode).run.run t = (.error (.overflow requested), t) := by
  obtain ⟨requested, hr⟩ := placement_overflow mode (sectorSize_pos hs) hfit
  exact ⟨requested, by rw [run_allocateInPlace, if_neg (by simp [hf]), if_pos hs, hr]⟩

/-- An allocation that fails has changed nothing. -/
lemma run_eq_self_of_error {e : PlanError}
    (h : ((allocateInPlace minimum mode).run.run t).1 = .error e) :
    ((allocateInPlace minimum mode).run.run t).2 = t := by
  rw [run_allocateInPlace] at h ⊢
  split
  · rfl
  · split
    · split
      · simp_all
      · rfl
    · rfl

/-! ## The table that allocation gives -/

lemma allocate_eq_ok_iff {t' : Table} :
    t.allocate minimum mode = .ok t' ↔
      t.finalized = false ∧ isSectorSize t.sectorSize = true ∧ t.settledSize minimum < limit
        ∧ ¬ t.IsTooSmall minimum mode ∧ t' = t.laidOut minimum := by
  rw [allocate]
  cases hf : t.finalized with
  | true => simp [run_of_finalized hf, Except.map]
  | false =>
    cases hs : isSectorSize t.sectorSize with
    | false => simp [run_of_sectorSize hf hs, Except.map]
    | true =>
      by_cases hfit : t.settledSize minimum < limit
      · by_cases hsmall : t.IsTooSmall minimum mode
        · simp [run_of_tooSmall hf hs hfit hsmall, Except.map, hsmall]
        · simp [run_of_fits hf hs hfit hsmall, Except.map, hsmall, hfit, eq_comm]
      · obtain ⟨requested, hr⟩ := run_of_overflow mode hf hs hfit
        simp [hr, Except.map, hfit]

/-- **Allocation is exact arithmetic below the limit of a disk, and refuses nothing else.**  On a
table that is not finalized and has legal sectors it succeeds exactly when the larger of the natural
and the requested size stays below the limit and, in strict mode, the request is zero or large
enough; that size is then the size of the table.  Every refusal there is about geometry, and no
refusal changes the table. -/
theorem allocate_exact (t : Table) (minimum : Nat) (mode : SizingMode) :
    (t.finalized = true → t.allocate minimum mode = .error .alreadyFinalized)
      ∧ (t.finalized = false → ¬ (t.sectorSize.isPowerOfTwo ∧ t.sectorSize ≤ grain) →
        t.allocate minimum mode = .error (.sectorSize t.sectorSize))
      ∧ (t.finalized = false → t.sectorSize.isPowerOfTwo → t.sectorSize ≤ grain →
        ((∃ t', t.allocate minimum mode = .ok t') ↔
          max t.naturalSize (t.requestedSize minimum) < limit
            ∧ (mode = .strict →
              t.requestedSize minimum = 0 ∨ t.naturalSize ≤ t.requestedSize minimum))
        ∧ (∀ t', t.allocate minimum mode = .ok t' →
          t'.size = max t.naturalSize (t.requestedSize minimum))
        ∧ ∀ e, t.allocate minimum mode = .error e →
          ∃ required requested, e = .geometry required requested)
      ∧ ∀ e t', (allocateInPlace minimum mode).run.run t = (.error e, t') → t' = t := by
  refine ⟨fun hf => ?_, fun hf hillegal => ?_, fun hf hpow hle => ⟨?_, ?_, ?_⟩, ?_⟩
  · rw [allocate, run_of_finalized hf]
    rfl
  · have hs : isSectorSize t.sectorSize = false := by
      rw [Bool.eq_false_iff, ne_eq, isSectorSize_iff]
      exact hillegal
    rw [allocate, run_of_sectorSize hf hs]
    rfl
  · have hs := (isSectorSize_iff t.sectorSize).mpr ⟨hpow, hle⟩
    have hsmall : ¬ t.IsTooSmall minimum mode ↔ (mode = .strict →
        t.requestedSize minimum = 0 ∨ t.naturalSize ≤ t.requestedSize minimum) := by
      rw [IsTooSmall]
      constructor
      · intro h hmode
        by_contra hnot
        exact h ⟨by omega, by omega, hmode⟩
      · rintro h ⟨hzero, hlt, hmode⟩
        have := h hmode
        omega
    simp [allocate_eq_ok_iff, hf, hs, hsmall, settledSize]
  · intro t' h
    obtain ⟨-, -, -, -, rfl⟩ := allocate_eq_ok_iff.mp h
    rfl
  · intro e h
    have hs := (isSectorSize_iff t.sectorSize).mpr ⟨hpow, hle⟩
    by_cases hfit : t.settledSize minimum < limit
    · by_cases hsmall : t.IsTooSmall minimum mode
      · rw [allocate, run_of_tooSmall hf hs hfit hsmall] at h
        cases h
        exact ⟨_, _, rfl⟩
      · rw [allocate, run_of_fits hf hs hfit hsmall] at h
        cases h
    · obtain ⟨requested, hr⟩ := run_of_overflow mode hf hs hfit
      rw [allocate, hr] at h
      cases h
      exact ⟨_, _, rfl⟩
  · intro e t' h
    have hself := run_eq_self_of_error (congrArg Prod.fst h)
    rwa [h] at hself

/-- One more byte than the last table that fits below the limit is refused. -/
theorem allocate_exact_at_limit :
    (∃ t' : Table, allocate
        { type := .dos, partitions := [{ size := 18446744073707454464, type := "83" }] }
        0 .grow = .ok t')
      ∧ ¬ ∃ t' : Table, allocate
        { type := .dos, partitions := [{ size := 18446744073707454465, type := "83" }] }
        0 .grow = .ok t' := by
  constructor
  · have hexact := allocate_exact
      { type := .dos, partitions := [{ size := 18446744073707454464, type := "83" }] } 0 .grow
    exact (hexact.2.2.1 rfl ⟨9, rfl⟩ (by decide)).1.mpr ⟨by decide, by simp⟩
  · have hexact := allocate_exact
      { type := .dos, partitions := [{ size := 18446744073707454465, type := "83" }] } 0 .grow
    intro h
    exact absurd ((hexact.2.2.1 rfl ⟨9, rfl⟩ (by decide)).1.mp h).1 (by decide)

end Table
end DiskPlan
