import DiskPlan.Decimal.Shortest

/-!
# Floats in positional notation

A float is shown with the digits of its shortest decimal and never with an exponent: zeros fill the
places up to the point or down from it, a whole number has no point, and `NaN`, `inf` and `-inf`
stand for what is no number.
-/
namespace DiskPlan.Decimal

/-- A decimal without an exponent. -/
def Scientific.positional (s : Scientific) : List Char :=
  let digits := Nat.toDigits 10 s.digits
  let places := (-s.exponent).toNat
  let zeros (n : Nat) := List.replicate n '0'
  if places = 0 then digits ++ zeros s.exponent.toNat
  else if places < digits.length then
    digits.take (digits.length - places) ++ '.' :: digits.drop (digits.length - places)
  else '0' :: '.' :: zeros (places - digits.length) ++ digits

/-- A decimal whose digits do not end in a zero that its exponent could carry. -/
def Scientific.reduce (s : Scientific) : Scientific :=
  if h : s.digits ≠ 0 ∧ s.digits % 10 = 0 then reduce ⟨s.digits / 10, s.exponent + 1⟩ else s
termination_by s.digits
decreasing_by omega

/-- A float in positional notation. -/
def positional (x : Float) : String :=
  if x.isNaN then "NaN"
  else
    let sign := if x.toBits ≥ 0x8000000000000000 then "-" else ""
    if x.isInf then sign ++ "inf"
    else
      match parts x with
      | (0, _) => sign ++ "0"
      | (mantissa, exponent) =>
        let digits := (Interval.around mantissa exponent).shortest.reduce.positional
        sign ++ String.ofList digits

end DiskPlan.Decimal
