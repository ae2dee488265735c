import DiskPlan.Document.Datum

/-!
# Numbers in JSON

A number without fraction and exponent is an integer when it fits in 64 bits, as an unsigned number
or, after a minus sign, as a signed one other than zero.  All others are floats: the leading digits
that fit in 64 bits are taken as a float, and that is scaled by one power of ten, by a
multiplication or a division.  Digits past those that fit are dropped, so the result may differ from
the nearest float in its last place.  A number beyond the floats cannot be used.
-/
namespace DiskPlan.Document.Json

/-- A number as it is written. -/
structure Numeral where
  /-- Whether there is a minus sign. -/
  negative : Bool
  /-- The digits before the point. -/
  whole : List Nat
  /-- The digits behind the point; none if there is no point. -/
  fraction : List Nat
  /-- The exponent, if there is one. -/
  exponent : Option Int
  deriving Repr, DecidableEq

/-- The value of a list of digits. -/
def ofDigits (digits : List Nat) : Nat := digits.foldl (fun n d => 10 * n + d) 0

/-- Cuts a non-empty run of digits off a text. -/
def digits? (cs : List Char) : Option (List Nat × List Char) :=
  match cs.span Char.isDigit with
  | ([], _) => none
  | (run, rest) => some (run.map fun c => c.toNat - '0'.toNat, rest)

/-- Cuts a fraction off a text, if there is one. -/
def fraction? : List Char → Option (List Nat × List Char)
  | '.' :: cs => digits? cs
  | cs => some ([], cs)

/-- Cuts the digits of an exponent and its sign off a text. -/
def exponentDigits? : List Char → Option (Int × List Char)
  | '-' :: cs => (digits? cs).map fun r => (-(ofDigits r.1 : Int), r.2)
  | '+' :: cs => (digits? cs).map fun r => ((ofDigits r.1 : Int), r.2)
  | cs => (digits? cs).map fun r => ((ofDigits r.1 : Int), r.2)

/-- Cuts an exponent off a text, if there is one. -/
def exponent? : List Char → Option (Option Int × List Char)
  | [] => some (none, [])
  | c :: cs =>
    if c = 'e' ∨ c = 'E' then (exponentDigits? cs).map fun r => (some r.1, r.2)
    else some (none, c :: cs)

/-- Cuts a minus sign off a text, if there is one. -/
def sign : List Char → Bool × List Char
  | '-' :: cs => (true, cs)
  | cs => (false, cs)

/-- Reads a number, which must be the whole text and have no needless leading zero. -/
def Numeral.ofChars? (cs : List Char) : Option Numeral := do
  let (negative, cs) := sign cs
  let (whole, cs) ← digits? cs
  let (fraction, cs) ← fraction? cs
  let (exponent, cs) ← exponent? cs
  if cs = [] ∧ (whole.length = 1 ∨ whole.head? ≠ some 0) then
    some { negative, whole, fraction, exponent }
  else none

namespace Numeral

/-- Appends digits to a number while it fits in 64 bits; the number and how many fitted. -/
def append (n : Nat) : List Nat → Nat × Nat
  | [] => (n, 0)
  | d :: ds =>
    if 10 * n + d < Datum.unsignedLimit then
      let (m, k) := append (10 * n + d) ds
      (m, k + 1)
    else (n, 0)

/-- The digits that fit in 64 bits, and the power of ten that they are scaled by. -/
def significand (n : Numeral) : Nat × Int :=
  let (front, kept) := append 0 n.whole
  let (all, used) := append front n.fraction
  (all, ((n.whole.length - kept : Nat) : Int) - used + n.exponent.getD 0)

/-- The greatest power of ten that is a float. -/
def topExponent : Nat := 308

/-- Scales a float by a power of ten, in steps of the greatest one; nothing beyond the floats. -/
def scale? (x : Float) (exponent : Int) : Option Float :=
  if _h : exponent.natAbs ≤ topExponent then
    let power := Float.ofScientific 1 false exponent.natAbs
    if 0 ≤ exponent then
      if (x * power).isInf then none else some (x * power)
    else some (x / power)
  else if x == 0 then some x
  else if 0 ≤ exponent then none
  else scale? (x / Float.ofScientific 1 false topExponent) (exponent + topExponent)
termination_by exponent.natAbs
decreasing_by simp only [topExponent] at *; omega

/-- The float of a number; nothing when it is beyond the floats. -/
def toFloat? (n : Numeral) : Option Float :=
  let (digits, exponent) := n.significand
  (scale? digits.toUInt64.toFloat exponent).map fun x => if n.negative then -x else x

/-- The integer of a number that is written as one and fits in 64 bits. -/
def toInt? (n : Numeral) : Option Int :=
  let value := ofDigits n.whole
  if n.fraction ≠ [] ∨ n.exponent ≠ none then none
  else if n.negative then if 0 < value ∧ value ≤ Datum.signedLimit then some (-value) else none
  else if value < Datum.unsignedLimit then some value else none

/-- The value of a number. -/
def toDatum (n : Numeral) : Datum :=
  match n.toInt? with
  | some value => .integer value
  | none =>
    match n.toFloat? with
    | some value => .float value
    | none => .unusable

end Numeral
end DiskPlan.Document.Json
