import DiskPlan.Document.Datum
import DiskPlan.Text.Hexadecimal

/-!
# Numbers in TOML

Integers of 64 bits with a sign, in decimal digits or without a sign in hexadecimal, octal or binary
ones; floats, rounded to the nearest; infinities and NaN by their names.  An underscore may stand
between two digits.  A positive float beyond the greatest one is refused, a negative one becomes
infinite.
-/
namespace DiskPlan.Document.Toml

/-- Reads digits with underscores between them, after those before, which are reversed; gives the
digits and what follows them. -/
def digitsAfter (isDigit : Char → Bool) (rev : List Char) : List Char → Option (List Char × List Char)
  | [] => if rev.isEmpty then none else some (rev.reverse, [])
  | c :: cs =>
    if isDigit c then digitsAfter isDigit (c :: rev) cs
    else if rev.isEmpty then none
    else if c = '_' then if cs.head?.any isDigit then digitsAfter isDigit rev cs else none
    else some (rev.reverse, c :: cs)

/-- Reads digits with underscores between them. -/
def digits? (isDigit : Char → Bool) (cs : List Char) : Option (List Char × List Char) :=
  digitsAfter isDigit [] cs

/-- The value of digits in a base. -/
def ofDigits (base : Nat) (digits : List Char) : Nat :=
  digits.foldl (fun n d => base * n + (Text.hexValue? d).getD 0) 0

/-- Reads decimal digits without a needless leading zero. -/
def wholeDigits? : List Char → Option (List Char × List Char)
  | '0' :: cs => some (['0'], cs)
  | cs => digits? Char.isDigit cs

/-- Reads the fraction of a float, if there is one. -/
def fraction? : List Char → Option (List Char × List Char)
  | '.' :: cs => digits? Char.isDigit cs
  | cs => some ([], cs)

/-- Reads a sign, if there is one; whether it is a minus, and what follows it. -/
def sign : List Char → Bool × List Char
  | '-' :: cs => (true, cs)
  | '+' :: cs => (false, cs)
  | cs => (false, cs)

/-- A number with its sign. -/
def signed (negative : Bool) (n : Nat) : Int := if negative then -n else n

/-- Reads the exponent of a float, if there is one. -/
def exponent? : List Char → Option (Option Int × List Char)
  | [] => some (none, [])
  | c :: cs =>
    if c = 'e' ∨ c = 'E' then
      let (negative, cs) := sign cs
      (digits? Char.isDigit cs).map fun (ds, cs) => (some (signed negative (ofDigits 10 ds)), cs)
    else some (none, c :: cs)

/-- The float nearest to `digits * 10 ^ exponent`; far beyond the floats it is not computed. -/
def nearestFloat (digits : Nat) (exponent : Int) : Float :=
  let top : Int := (Nat.toDigits 10 digits).length + exponent
  if digits = 0 ∨ top < -400 then 0
  else if top > 400 then 1 / 0
  else Float.ofScientific digits (exponent < 0) exponent.natAbs

/-- The value of a decimal integer, if it fits in 64 bits. -/
def decimal? (negative : Bool) (n : Nat) : Option Datum :=
  if n < Datum.signedLimit ∨ (negative ∧ n = Datum.signedLimit) then
    some (.integer (signed negative n))
  else none

/-- The value of a float, if it is not beyond the greatest one. -/
def float? (negative : Bool) (x : Float) : Option Datum :=
  if negative then some (.float (-x)) else if x.isInf then none else some (.float x)

/-- Reads a decimal integer or a float behind its sign. -/
def decimalNumber? (negative : Bool) (cs : List Char) : Option (Datum × List Char) := do
  let (whole, cs) ← wholeDigits? cs
  let (fraction, cs) ← fraction? cs
  let (exponent, cs) ← exponent? cs
  if fraction.isEmpty ∧ exponent = none then
    return (← decimal? negative (ofDigits 10 whole), cs)
  else
    let x := nearestFloat (ofDigits 10 (whole ++ fraction)) (exponent.getD 0 - fraction.length)
    return (← float? negative x, cs)

/-- Reads an integer in a base behind the mark of the base. -/
def basedInteger? (base : Nat) (isDigit : Char → Bool) (cs : List Char) :
    Option (Datum × List Char) := do
  let (digits, cs) ← digits? isDigit cs
  return (← decimal? false (ofDigits base digits), cs)

/-- Reads a number; gives its value and what follows it. -/
def number? : List Char → Option (Datum × List Char)
  | '0' :: 'x' :: cs => basedInteger? 16 Text.isHexDigit cs
  | '0' :: 'o' :: cs => basedInteger? 8 (fun c => '0' ≤ c && c ≤ '7') cs
  | '0' :: 'b' :: cs => basedInteger? 2 (fun c => c == '0' || c == '1') cs
  | cs =>
    let (negative, cs) := sign cs
    match cs with
    | 'i' :: 'n' :: 'f' :: cs => some (.float (if negative then -1 / 0 else 1 / 0), cs)
    | 'n' :: 'a' :: 'n' :: cs => some (.float (0 / 0), cs)
    | cs => decimalNumber? negative cs

end DiskPlan.Document.Toml
