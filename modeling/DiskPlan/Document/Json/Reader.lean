import DiskPlan.Document.Json.Token
import DiskPlan.Document.Json.Quoted
import DiskPlan.Document.Json.Number

/-!
# Reading JSON

The tokens of a text are taken one by one by a machine whose stack holds the lists and tables that
are open, so that a text may nest as deeply as it likes.  Lists and tables nested deeper than
`usableDepth` are checked for their form and become unusable.
-/
namespace DiskPlan.Document.Json

/-- How deeply a list or a table may be nested, the outermost one counting one, and still be
used. -/
def usableDepth : Nat := 127

/-- What may come next in an open list. -/
inductive ListPlace where
  /-- The first value or the end. -/
  | first
  /-- A value. -/
  | value
  /-- A comma or the end. -/
  | after

/-- What may come next in an open table. -/
inductive TablePlace where
  /-- The first key or the end. -/
  | first
  /-- A key. -/
  | key
  /-- The colon behind a key. -/
  | colon (key : Option String)
  /-- The value of a key. -/
  | value (key : Option String)
  /-- A comma or the end. -/
  | after

/-- A list or a table that is open; what it holds so far is reversed. -/
inductive Frame where
  /-- An open list. -/
  | list (place : ListPlace) (rev : List Datum)
  /-- An open table. -/
  | table (place : TablePlace) (rev : List (Option String × Datum))

/-- The machine: what is open, the innermost first, and the value of the document once it is
complete. -/
structure Machine where
  /-- The open lists and tables. -/
  stack : List Frame
  /-- The value of the document. -/
  result : Option Datum

namespace Machine

/-- The machine before the first token. -/
def start : Machine := ⟨[], none⟩

/-- Whether a value may come next. -/
def wantsValue : Machine → Bool
  | ⟨[], result⟩ => result.isNone
  | ⟨.list .first _ :: _, _⟩ | ⟨.list .value _ :: _, _⟩ | ⟨.table (.value _) _ :: _, _⟩ => true
  | _ => false

/-- Puts a complete value where one may come. -/
def put? (value : Datum) : Machine → Option Machine
  | ⟨[], none⟩ => some ⟨[], some value⟩
  | ⟨.list .first rev :: rest, r⟩ | ⟨.list .value rev :: rest, r⟩ =>
    some ⟨.list .after (value :: rev) :: rest, r⟩
  | ⟨.table (.value key) rev :: rest, r⟩ =>
    some ⟨.table .after ((key, value) :: rev) :: rest, r⟩
  | _ => none

/-- Opens a list or a table where a value may come. -/
def open? (frame : Frame) (m : Machine) : Option Machine :=
  if m.wantsValue then some { m with stack := frame :: m.stack } else none

/-- Whether the innermost of the open lists and tables is not too deep to be used. -/
def isShallow (stack : List Frame) : Bool := (stack.drop usableDepth).isEmpty

/-- Closes the innermost of the open lists and tables, which has the given value. -/
def close? (m : Machine) (value : Datum) (rest : List Frame) : Option Machine :=
  Machine.put? (if isShallow m.stack then value else .unusable) { m with stack := rest }

/-- The value of a word. -/
def word? (raw : List Char) : Option Datum :=
  match String.ofList raw with
  | "null" => some .null
  | "true" => some (.bool true)
  | "false" => some (.bool false)
  | _ => (Numeral.ofChars? raw).map Numeral.toDatum

/-- The value of a quoted text. -/
def textDatum : Option String → Datum
  | some text => .text text
  | none => .unusable

/-- What a token does to the machine; nothing when it may not come next. -/
def step? (m : Machine) : Token → Option Machine
  | .openList => m.open? (.list .first [])
  | .openTable => m.open? (.table .first [])
  | .closeList =>
    match m.stack with
    | .list .first rev :: rest | .list .after rev :: rest =>
      m.close? (.list rev.reverse) rest
    | _ => none
  | .closeTable =>
    match m.stack with
    | .table .first rev :: rest | .table .after rev :: rest =>
      m.close? (.table rev.reverse) rest
    | _ => none
  | .colon =>
    match m.stack with
    | .table (.colon key) rev :: rest => some { m with stack := .table (.value key) rev :: rest }
    | _ => none
  | .comma =>
    match m.stack with
    | .list .after rev :: rest => some { m with stack := .list .value rev :: rest }
    | .table .after rev :: rest => some { m with stack := .table .key rev :: rest }
    | _ => none
  | .quoted raw =>
    match unquote? raw with
    | none => none
    | some text =>
      match m.stack with
      | .table .first rev :: rest | .table .key rev :: rest =>
        some { m with stack := .table (.colon text) rev :: rest }
      | _ => m.put? (textDatum text)
  | .word raw =>
    match word? raw with
    | none => none
    | some value => m.put? value

end Machine

/-- The value of a JSON text; nothing when it is not well formed. -/
def read? (text : String) : Option Datum := do
  let tokens ← tokens? text
  let final ← tokens.foldlM Machine.step? Machine.start
  if final.stack.isEmpty then final.result else none

end DiskPlan.Document.Json
