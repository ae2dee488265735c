import DiskPlan.Size
import DiskPlan.Text.Blank

/-!
# Sizes as people write them

A size is written as a decimal number, perhaps followed by a unit: `20GiB`, `512 MB`, ` 7 `.  White
space may stand before, between and after the two, and the case of the unit counts.  `read` gives
the exact product, and refuses a text for one of three causes: it has no digit at all, it has not
this form or names another unit, or its product reaches the limit.
-/
namespace DiskPlan.Size

/-- The units that may follow a number, with their multiples; no unit means bytes. -/
def units : List (String × Nat) :=
  [("", 1), ("kB", kilobyte), ("KiB", kibibyte), ("MB", megabyte), ("MiB", mebibyte),
    ("GB", gigabyte), ("GiB", gibibyte), ("TB", terabyte), ("TiB", tebibyte)]

/-- Why a text is not a size; each cause carries the text. -/
inductive NotationError where
  /-- There is no digit in the text. -/
  | noNumber (text : String)
  /-- The text is not a number and one of the units. -/
  | unknownUnit (text : String)
  /-- The number of bytes reaches the limit. -/
  | outOfRange (text : String)
  deriving Repr, DecidableEq

/-- The wording of a cause. -/
def NotationError.message : NotationError → String
  | .noNumber text => "the size string doesn't contain any number: " ++ text
  | .unknownUnit text => "unknown data size units in string: " ++ text
  | .outOfRange text => "data size is out of range: " ++ text

/-- The value of a run of decimal digits. -/
def ofDigits (digits : List Char) : Nat :=
  digits.foldl (fun n d => 10 * n + (d.toNat - '0'.toNat)) 0

/-- Splits a text into its digits and its unit; nothing when it has not the form of a size. -/
def split? (text : List Char) : Option (List Char × List Char) :=
  let (digits, rest) := (Text.dropBlanks text).span Char.isDigit
  let (unit, rest) := (Text.dropBlanks rest).span Char.isAlpha
  if digits ≠ [] ∧ Text.dropBlanks rest = [] then some (digits, unit) else none

/-- The multiple that a unit stands for. -/
def multiple? (unit : List Char) : Option Nat := units.lookup (String.ofList unit)

/-- The number of bytes that a text stands for. -/
def read (text : String) : Except NotationError Nat :=
  if text.toList.any Char.isDigit then
    match split? text.toList with
    | none => .error (.unknownUnit text)
    | some (digits, unit) =>
      match multiple? unit with
      | none => .error (.unknownUnit text)
      | some multiple =>
        match fit? (ofDigits digits * multiple) with
        | none => .error (.outOfRange text)
        | some bytes => .ok bytes
  else .error (.noNumber text)

end DiskPlan.Size
