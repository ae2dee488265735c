import DiskPlan.Size.Notation
import DiskPlan.Decimal.Positional

/-!
# Why a document cannot be read

A text is either not well formed at all, or it is a document that does not fit what is read from
it.  Of the ways not to fit, those that a user can mend by their wording have causes of their own;
`detail?` words them, and every other misfit has no wording.
-/
namespace DiskPlan.Document

/-- How a document does not fit what is read from it. -/
inductive Misfit where
  /-- A field that has no default is not there. -/
  | missingField (name : String)
  /-- A field is given twice. -/
  | duplicateField (name : String)
  /-- A word is none of a closed set. -/
  | unknownWord (word : String) (expected : List String)
  /-- A size is neither a number nor a text. -/
  | notASize
  /-- A size is an integer below zero. -/
  | negativeSize (value : Int)
  /-- A size is a number that is not whole, below zero or past the limit. -/
  | brokenSize (value : Float)
  /-- A size is a text of the wrong form. -/
  | sizeText (cause : Size.NotationError)
  /-- Anything else: a value of another kind, a number out of range, a text with half a character. -/
  | unfit
  deriving Repr, DecidableEq

/-- A word as a message lists it. -/
def ticked (word : String) : String := "`" ++ word ++ "`"

/-- The words that may stand in a place: two are joined by `or`, more are listed. -/
def alternatives (words : List String) : String :=
  match words with
  | [a, b] => ticked a ++ " or " ++ ticked b
  | _ => "one of " ++ String.intercalate ", " (words.map ticked)

/-- The wording of a misfit, if it has one. -/
def Misfit.detail? : Misfit → Option String
  | missingField name => some ("missing field " ++ ticked name)
  | duplicateField name => some ("duplicate field " ++ ticked name)
  | unknownWord word expected =>
    some ("unknown variant " ++ ticked word ++ ", expected " ++ alternatives expected)
  | notASize =>
    some "invalid type, expected a byte count or a data size string such as \"20GiB\""
  | negativeSize value => some ("minsize cannot be negative: " ++ toString value)
  | brokenSize value => some ("minsize must be a whole byte count: " ++ Decimal.positional value)
  | sizeText cause => some cause.message
  | unfit => none

/-- Why a text cannot be read as a document. -/
inductive Fault where
  /-- The text is not well formed. -/
  | malformed
  /-- The document does not fit. -/
  | misfit (cause : Misfit)
  deriving Repr, DecidableEq

end DiskPlan.Document
