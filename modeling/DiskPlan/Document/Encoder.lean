import DiskPlan.Document.Datum
import DiskPlan.Keyword
import DiskPlan.PathMap

/-!
# Encoders

Writing the values of the library as values of a document.  A record becomes a table of its fields
in their order; what is unset is left out.
-/
namespace DiskPlan.Document.Encoder

variable {α : Type}

/-- A field that is always written. -/
def field (name : String) (value : Datum) : List (String × Datum) := [(name, value)]

/-- A field that is written when it is set. -/
def ifSet (name : String) (encode : α → Datum) : Option α → List (String × Datum)
  | some a => [(name, encode a)]
  | none => []

/-- A size that is written when it is not zero. -/
def unlessZero (name : String) (size : Nat) : List (String × Datum) :=
  if size = 0 then [] else [(name, .nat size)]

/-- A keyword as its word. -/
def keyword [Keyword α] (a : α) : Datum := .text (Keyword.word a)

/-- A list. -/
def list (encode : α → Datum) (as : List α) : Datum := .list (as.map encode)

/-- A map, in the order of its keys. -/
def map (encode : α → Datum) (m : PathMap α) : Datum :=
  .record (m.entries.map fun e => (e.1, encode e.2))

end DiskPlan.Document.Encoder
