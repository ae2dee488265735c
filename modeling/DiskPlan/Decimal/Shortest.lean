/-!
# The shortest decimal of a float

A positive finite float is `mantissa * 2 ^ exponent`.  The reals that round to it form an interval
around it, whose ends belong to it when the mantissa is even.  Its shortest decimal has the fewest
digits of all decimals in that interval and is, of those, the nearest to the float; of two equally
near ones it is the larger.  Everything is computed in exact integer arithmetic: for each number of
digits the two neighbours of the float on the decimal grid are tried.
-/
namespace DiskPlan.Decimal

/-- The least mantissa of a float that uses all its bits, `2 ^ 52`. -/
def leastFull : Nat := 4503599627370496

/-- A positive number as a quotient of natural numbers. -/
structure Quotient where
  /-- The numerator. -/
  num : Nat
  /-- The denominator, which is positive. -/
  den : Nat
  deriving Repr, DecidableEq

namespace Quotient

/-- `n * 2 ^ e`. -/
def ofBinary (n : Nat) (e : Int) : Quotient := ⟨n * Nat.pow 2 e.toNat, Nat.pow 2 (-e).toNat⟩

/-- `n * 10 ^ e`. -/
def ofDecimal (n : Nat) (e : Int) : Quotient := ⟨n * Nat.pow 10 e.toNat, Nat.pow 10 (-e).toNat⟩

/-- Comparison of quotients, by cross multiplication. -/
def le (a b : Quotient) : Bool := a.num * b.den ≤ b.num * a.den

/-- Strict comparison of quotients. -/
def lt (a b : Quotient) : Bool := a.num * b.den < b.num * a.den

/-- How many times `b` goes into `a`. -/
def div (a b : Quotient) : Nat := a.num * b.den / (a.den * b.num)

/-- The number of digits of a natural number. -/
def width (n : Nat) : Nat := (Nat.toDigits 10 n).length

/-- The `k` with `10 ^ (k - 1) ≤ q < 10 ^ k`. -/
def decade (q : Quotient) : Int :=
  if q.den ≤ q.num then width (q.num / q.den)
  else
    let w : Int := width (q.den / q.num)
    if q.den = q.num * Nat.pow 10 (w - 1).toNat then 2 - w else 1 - w

end Quotient

/-- A decimal `digits * 10 ^ exponent`. -/
structure Scientific where
  /-- The digits, as one number. -/
  digits : Nat
  /-- The power of ten. -/
  exponent : Int
  deriving Repr, DecidableEq

/-- The value of a decimal. -/
def Scientific.value (s : Scientific) : Quotient := .ofDecimal s.digits s.exponent

/-- The reals around a float that round to it. -/
structure Interval where
  /-- The lower end. -/
  low : Quotient
  /-- The float itself. -/
  centre : Quotient
  /-- The upper end. -/
  high : Quotient
  /-- Whether the ends belong to it. -/
  closed : Bool

namespace Interval

/-- The interval of the float `mantissa * 2 ^ exponent`: half a step to each side, but a quarter
downwards from the least full mantissa, below which the steps may be half as long. -/
def around (mantissa : Nat) (exponent : Int) : Interval where
  low := .ofBinary (4 * mantissa - if mantissa = leastFull then 1 else 2) (exponent - 2)
  centre := .ofBinary (4 * mantissa) (exponent - 2)
  high := .ofBinary (4 * mantissa + 2) (exponent - 2)
  closed := mantissa % 2 = 0

/-- Whether a number lies in the interval. -/
def contains (i : Interval) (q : Quotient) : Bool :=
  if i.closed then i.low.le q && q.le i.high else i.low.lt q && q.lt i.high

/-- The decimal in the interval on the grid of `10 ^ exponent` that is nearest to the centre. -/
def onGrid? (i : Interval) (exponent : Int) : Option Scientific :=
  let below : Scientific := ⟨i.centre.div (.ofDecimal 1 exponent), exponent⟩
  let above : Scientific := ⟨below.digits + 1, exponent⟩
  let middle : Quotient := .ofDecimal (10 * below.digits + 5) (exponent - 1)
  match i.contains below.value, i.contains above.value with
  | true, true => if i.centre.lt middle then some below else some above
  | true, false => some below
  | false, true => some above
  | false, false => none

/-- The shortest decimal in the interval; seventeen digits are always enough. -/
def shortest (i : Interval) : Scientific :=
  let k := i.centre.decade
  ((List.range' 1 17).findSome? fun n : Nat => i.onGrid? (k - n)).getD
    ⟨i.centre.div (.ofDecimal 1 (k - 17)), k - 17⟩

end Interval

/-- The mantissa and the exponent of the magnitude of a finite float. -/
def parts (x : Float) : Nat × Int :=
  let bits := x.toBits.toNat
  let fraction := bits % leastFull
  let exponent : Nat := bits / leastFull % 2048
  if exponent = 0 then (fraction, -1074) else (leastFull + fraction, (exponent : Int) - 1075)

end DiskPlan.Decimal
