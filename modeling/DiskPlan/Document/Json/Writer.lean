import DiskPlan.Document.Datum
import DiskPlan.Decimal.Positional

/-!
# Writing JSON

A value is written either on one line without blanks, or spread over lines with two blanks for each
level.  In a text only the quote, the backslash and the controls below the space are escaped.  What
has no form of its own in JSON is written as the nearest thing that has one: a moment as its text,
an unusable value as `null`.
-/
namespace DiskPlan.Document.Json

/-- How one character is written between quotes. -/
def escape (c : Char) : List Char :=
  if c = '"' then ['\\', '"']
  else if c = '\\' then ['\\', '\\']
  else if c = '\x08' then ['\\', 'b']
  else if c = '\x0c' then ['\\', 'f']
  else if c = '\n' then ['\\', 'n']
  else if c = '\r' then ['\\', 'r']
  else if c = '\t' then ['\\', 't']
  else if c.toNat < 0x20 then
    ['\\', 'u', '0', '0', Nat.digitChar (c.toNat / 16), Nat.digitChar (c.toNat % 16)]
  else [c]

/-- A text between quotes. -/
def quote (text : String) : String :=
  String.ofList ('"' :: text.toList.flatMap escape ++ ['"'])

/-- How values are spread: what stands before each value of a list or table at a depth, and behind
a colon. -/
structure Spacing where
  /-- The text before a value at a depth, or before the end of a list or table one level up. -/
  lineBreak : Nat → String
  /-- The text behind a colon. -/
  afterColon : String

/-- Everything on one line. -/
def compact : Spacing := ⟨fun _ => "", ""⟩

/-- Each value on a line of its own, with two blanks for each level. -/
def spread : Spacing :=
  ⟨fun depth => String.ofList ('\n' :: List.replicate (2 * depth) ' '), " "⟩

mutual

/-- A value at a depth. -/
def write (s : Spacing) (depth : Nat) : Datum → String
  | .null | .unusable => "null"
  | .bool true => "true"
  | .bool false => "false"
  | .integer value => toString value
  | .float value => Decimal.positional value
  | .text value | .moment value => quote value
  | .list [] => "[]"
  | .list (item :: items) =>
    "[" ++ s.lineBreak (depth + 1) ++ write s (depth + 1) item ++ writeItems s (depth + 1) items
      ++ s.lineBreak depth ++ "]"
  | .table [] => "\x7b\x7d"
  | .table ((key, value) :: entries) =>
    "\x7b" ++ s.lineBreak (depth + 1) ++ quote (key.getD "") ++ ":" ++ s.afterColon
      ++ write s (depth + 1) value ++ writeEntries s (depth + 1) entries
      ++ s.lineBreak depth ++ "\x7d"

/-- The values of a list behind its first. -/
def writeItems (s : Spacing) (depth : Nat) : List Datum → String
  | [] => ""
  | item :: items =>
    "," ++ s.lineBreak depth ++ write s depth item ++ writeItems s depth items

/-- The entries of a table behind its first. -/
def writeEntries (s : Spacing) (depth : Nat) : List (Option String × Datum) → String
  | [] => ""
  | (key, value) :: entries =>
    "," ++ s.lineBreak depth ++ quote (key.getD "") ++ ":" ++ s.afterColon
      ++ write s depth value ++ writeEntries s depth entries

end

/-- A value on one line. -/
def render (value : Datum) : String := write compact 0 value

/-- A value spread over lines. -/
def renderSpread (value : Datum) : String := write spread 0 value

end DiskPlan.Document.Json
