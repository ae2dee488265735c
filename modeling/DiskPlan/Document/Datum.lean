/-!
# Data

The value of a document, whether it is written as JSON or as TOML.  The entries of a table keep
their order and repeated keys, because what reads them may refuse a repetition.  Some things that
are well formed cannot be used: a text with half a surrogate pair, a number beyond the floats, a
value nested too deeply.  They are kept as `unusable`, or as a key that is `none`, and are an error
only where they are used.
-/
namespace DiskPlan

/-- The value of a document. -/
inductive Datum where
  /-- The absent value. -/
  | null
  /-- A truth value. -/
  | bool (value : Bool)
  /-- A number written as an integer of at most 64 bits. -/
  | integer (value : Int)
  /-- Any other number. -/
  | float (value : Float)
  /-- A text. -/
  | text (value : String)
  /-- A date or a time, with its text. -/
  | moment (text : String)
  /-- A list of values. -/
  | list (items : List Datum)
  /-- Keys with values, in the order of the document. -/
  | table (entries : List (Option String × Datum))
  /-- A value that is well formed but cannot be used. -/
  | unusable
  deriving Inhabited

namespace Datum

/-- Signed integers of 64 bits lie below this and not below its negative: `2 ^ 63`. -/
def signedLimit : Nat := 9223372036854775808

/-- Unsigned integers of 64 bits lie below this: `2 ^ 64`. -/
def unsignedLimit : Nat := 18446744073709551616

mutual

/-- Whether a value and all that is in it can be used. -/
def isUsable : Datum → Bool
  | .unusable => false
  | .list items => areUsable items
  | .table entries => haveUsable entries
  | _ => true

/-- Whether all values of a list can be used. -/
def areUsable : List Datum → Bool
  | [] => true
  | item :: items => item.isUsable && areUsable items

/-- Whether all keys and values of a table can be used. -/
def haveUsable : List (Option String × Datum) → Bool
  | [] => true
  | (key, value) :: entries => key.isSome && value.isUsable && haveUsable entries

end

/-- A table with the given fields. -/
def record (fields : List (String × Datum)) : Datum :=
  .table (fields.map fun f => (some f.1, f.2))

/-- The integer of a natural number. -/
def nat (n : Nat) : Datum := .integer n

end Datum
end DiskPlan
