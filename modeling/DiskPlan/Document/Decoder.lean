import DiskPlan.Document.Datum
import DiskPlan.Document.Error
import DiskPlan.Keyword
import DiskPlan.PathMap
import DiskPlan.Size

/-!
# Decoders

A decoder reads a value of the library from a value of a document, or says how that does not fit.
The decoders here read the simple kinds: truth values, texts, byte counts, sizes, keywords, options,
lists and maps.  Of several misfits the first in the order of the document is the answer.
-/
namespace DiskPlan.Document

/-- How a document is written. -/
inductive Format where
  /-- As JSON. -/
  | json
  /-- As TOML. -/
  | toml
  deriving Repr, DecidableEq

/-- What a decoder knows of the value that it reads. -/
structure Manner where
  /-- How the document is written. -/
  format : Format
  /-- Whether the value was taken whole, and checked to be usable, before it is decoded. -/
  held : Bool := false
  deriving Repr, DecidableEq

/-- Reads a value of the library from a value of a document. -/
def Decoder (α : Type) : Type := Manner → Datum → Except Misfit α

namespace Decoder

variable {α : Type}

/-- A truth value. -/
def bool : Decoder Bool
  | _, .bool value => .ok value
  | _, _ => .error .unfit

/-- A text. -/
def text : Decoder String
  | _, .text value => .ok value
  | _, _ => .error .unfit

/-- A byte count: an integer from zero to below the limit. -/
def count : Decoder Nat
  | _, .integer (.ofNat n) => if n < Size.limit then .ok n else .error .unfit
  | _, _ => .error .unfit

/-- A value that may be absent. -/
def optional (decode : Decoder α) : Decoder (Option α)
  | _, .null => .ok none
  | m, value => (decode m value).map some

/-- The whole number of bytes of a float, if it is one. -/
def wholeFloat (x : Float) : Except Misfit Nat :=
  if x < 0 || x.isNaN || x.isInf || x.floor != x || x ≥ Size.limit.toFloat then
    .error (.brokenSize x)
  else .ok x.toUInt64.toNat

/-- A size: a number of bytes, or a text with a unit. -/
def size : Decoder Nat
  | _, .integer (.ofNat n) => .ok n
  | _, .integer value => .error (.negativeSize value)
  | _, .float value => wholeFloat value
  | _, .text value => (Size.read value).mapError .sizeText
  | _, .unusable => .error .unfit
  | _, _ => .error .notASize

/-- The alternative that a word stands for. -/
def ofWord [Keyword α] (word : String) : Except Misfit α :=
  match Keyword.ofWord? word with
  | some a => .ok a
  | none => .error (.unknownWord word (Keyword.words α))

/-- The key under which a moment is held as a table. -/
def momentKey : String := "$__toml_private_datetime"

/-- Whether a value is a list or a table without anything in it. -/
def isHollow : Datum → Bool
  | .list [] | .table [] => true
  | _ => false

/-- Whether a value is an absent value or an empty table. -/
def isVoid : Datum → Bool
  | .null | .table [] => true
  | _ => false

/-- The alternative that the only key of a table stands for, when its value is nothing. -/
def ofOnlyKey [Keyword α] (nothing : Datum → Bool) (key : Option String) (value : Datum) :
    Except Misfit α := do
  let some word := key | throw .unfit
  let a ← ofWord word
  if nothing value then return a else throw .unfit

/-- A keyword: its word, or a table with the word as its only key and nothing as its value.  What
counts as nothing, and whether other keys are noticed before the word is looked up, depends on the
manner. -/
def keyword [Keyword α] : Decoder α
  | _, .text word => ofWord word
  | ⟨.json, false⟩, .table ((key, value) :: rest) => do
    let a ← ofOnlyKey (· matches .null) key value
    if rest.isEmpty then return a else throw .unfit
  | ⟨.toml, false⟩, .table [(key, value)] => ofOnlyKey isHollow key value
  | ⟨_, true⟩, .table [(key, value)] => ofOnlyKey isVoid key value
  | ⟨_, true⟩, .moment _ => ofOnlyKey (fun _ => false) (some momentKey) .null
  | _, _ => .error .unfit

/-- The values of a list, in order. -/
def items (decode : Decoder α) (m : Manner) : List Datum → Except Misfit (List α)
  | [] => .ok []
  | value :: values => do
    let a ← decode m value
    return a :: (← items decode m values)

/-- A list. -/
def list (decode : Decoder α) : Decoder (List α)
  | m, .list values => items decode m values
  | _, _ => .error .unfit

/-- The entries of a map, in order; of two with one key the later counts. -/
def entries (decode : Decoder α) (m : Manner) :
    PathMap α → List (Option String × Datum) → Except Misfit (PathMap α)
  | map, [] => .ok map
  | map, (some key, value) :: rest => do
    let a ← decode m value
    entries decode m (map.insert key a) rest
  | _, (none, _) :: _ => .error .unfit

/-- A map. -/
def map (decode : Decoder α) : Decoder (PathMap α)
  | m, .table pairs => entries decode m .empty pairs
  | _, _ => .error .unfit

end Decoder
end DiskPlan.Document
