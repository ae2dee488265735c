import DiskPlan.Document.Toml.Value

/-!
# Reading TOML

A document is read line by line into statements, which then build its tables.  A line feed ends a
line, with or without a carriage return before it, and a byte order mark at the start is passed
over.
-/
namespace DiskPlan.Document.Toml

/-- A text with a single line feed at the end of each line; other carriage returns stay. -/
def unifyLines : List Char → List Char
  | '\r' :: '\n' :: cs => '\n' :: unifyLines cs
  | c :: cs => c :: unifyLines cs
  | [] => []

/-- Reads the end of a line: blanks, perhaps a comment, and a line feed or the end of the text; gives
what follows it. -/
def lineEnd? (cs : List Char) : Option (List Char) :=
  let rest :=
    match skipBlanks cs with
    | '#' :: rest => rest.dropWhile isTextChar
    | rest => rest
  match rest with
  | [] => some []
  | '\n' :: rest => some rest
  | _ => none

/-- Reads an entry. -/
def entry? (cs : List Char) : Option (Statement × List Char) := do
  let (path, key, rest) ← keyAndSign? cs
  let (value, rest) ← outerValue? rest
  return (.entry ⟨path, key, value⟩, rest)

/-- Reads a header behind its opening bracket. -/
def header? (cs : List Char) : Option (Statement × List Char) := do
  let (path, key, rest) ← key? cs
  return (.header path key, ← mark? ']' rest)

/-- Reads a header behind two opening brackets. -/
def listHeader? (cs : List Char) : Option (Statement × List Char) := do
  let (path, key, rest) ← key? cs
  return (.listHeader path key, ← (mark? ']' rest).bind (mark? ']'))

/-- Reads a statement. -/
def statement? : List Char → Option (Statement × List Char)
  | '[' :: '[' :: cs => listHeader? cs
  | '[' :: cs => header? cs
  | cs => entry? cs

/-- Whether a line says nothing: there is a comment, a line feed or nothing after its blanks. -/
def isSilent (cs : List Char) : Bool := cs.head?.all fun c => c == '#' || c == '\n'

/-- Reads the statements of a text; the bound on the number of lines is the length of the text. -/
def statements? (rev : List Statement) : Nat → List Char → Option (List Statement)
  | _, [] => some rev.reverse
  | 0, _ => none
  | fuel + 1, c :: cs =>
    let line := skipBlanks (c :: cs)
    if isSilent line then do statements? rev fuel (← lineEnd? line)
    else do
      let (statement, rest) ← statement? line
      statements? (statement :: rev) fuel (← lineEnd? rest)

/-- A text without a byte order mark. -/
def withoutMark : List Char → List Char
  | c :: cs => if c.toNat = 0xfeff then cs else c :: cs
  | [] => []

/-- The value of a TOML text; nothing when it is not well formed. -/
def read? (text : String) : Option Datum :=
  let cs := unifyLines (withoutMark text.toList)
  (statements? [] cs.length cs).bind assemble?

end DiskPlan.Document.Toml
