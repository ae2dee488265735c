/-!
# Byte counts

Sizes and offsets on a disk are natural numbers of bytes.  A disk addresses fewer than `2 ^ 64`
bytes, so every sum and every rounding that a plan needs is refused when its exact value reaches
that limit.  Rounding up to a grain is the least multiple of the grain that is not below the value
(`le_roundUp`, `dvd_roundUp`, `roundUp_le_of_dvd`).
-/
namespace DiskPlan.Size

/-- No byte count that a plan holds reaches this limit, `2 ^ 64`. -/
def limit : Nat := 18446744073709551616

/-! ## Units -/

/-- A thousand bytes. -/
def kilobyte : Nat := 1000

/-- A million bytes. -/
def megabyte : Nat := 1000 * kilobyte

/-- A thousand million bytes. -/
def gigabyte : Nat := 1000 * megabyte

/-- A million million bytes. -/
def terabyte : Nat := 1000 * gigabyte

/-- `2 ^ 10` bytes. -/
def kibibyte : Nat := 1024

/-- `2 ^ 20` bytes. -/
def mebibyte : Nat := 1024 * kibibyte

/-- `2 ^ 30` bytes. -/
def gibibyte : Nat := 1024 * mebibyte

/-- `2 ^ 40` bytes. -/
def tebibyte : Nat := 1024 * gibibyte

/-! ## Arithmetic below the limit -/

/-- The byte count itself, when it is below the limit. -/
def fit? (bytes : Nat) : Option Nat := if bytes < limit then some bytes else none

/-- The sum of two byte counts, when it is below the limit. -/
def add? (a b : Nat) : Option Nat := fit? (a + b)

/-- The least multiple of `grain` that is not below `bytes`, for a positive grain. -/
def roundUp (bytes grain : Nat) : Nat := (bytes + (grain - 1)) / grain * grain

/-- Rounds `bytes` up to a multiple of `grain`; nothing when there is no multiple because the grain
is zero, or when the least one reaches the limit. -/
def alignUp? (bytes grain : Nat) : Option Nat :=
  if grain = 0 then none else fit? (roundUp bytes grain)

/-! ## What rounding gives -/

theorem fit?_eq_some_iff {a b : Nat} : fit? a = some b ↔ a = b ∧ a < limit := by
  unfold fit?
  split
  · simp_all
  · constructor
    · simp
    · rintro ⟨_, h⟩
      contradiction

theorem add?_eq_some_iff {a b c : Nat} : add? a b = some c ↔ a + b = c ∧ a + b < limit :=
  fit?_eq_some_iff

theorem dvd_roundUp (bytes grain : Nat) : grain ∣ roundUp bytes grain :=
  Nat.dvd_mul_left _ _

theorem le_roundUp {grain : Nat} (bytes : Nat) (h : 0 < grain) : bytes ≤ roundUp bytes grain := by
  have := Nat.div_add_mod (bytes + (grain - 1)) grain
  have := Nat.mod_lt (bytes + (grain - 1)) h
  rw [roundUp, Nat.mul_comm]
  omega

theorem roundUp_le_of_dvd {bytes grain n : Nat} (hn : bytes ≤ n) (hd : grain ∣ n) :
    roundUp bytes grain ≤ n := by
  obtain ⟨k, rfl⟩ := hd
  rcases Nat.eq_zero_or_pos grain with rfl | h
  · simp [roundUp]
  · have hk : (bytes + (grain - 1)) / grain ≤ k := by
      rw [Nat.div_le_iff_le_mul_add_pred h]
      omega
    rw [roundUp, Nat.mul_comm]
    exact Nat.mul_le_mul_left grain hk

theorem alignUp?_eq_some_iff {bytes grain n : Nat} :
    alignUp? bytes grain = some n ↔ grain ≠ 0 ∧ roundUp bytes grain = n ∧ n < limit := by
  unfold alignUp?
  split
  · simp_all
  · rw [fit?_eq_some_iff]
    constructor
    · rintro ⟨rfl, h⟩
      exact ⟨by assumption, rfl, h⟩
    · rintro ⟨_, rfl, h⟩
      exact ⟨rfl, h⟩

end DiskPlan.Size
