import DiskPlan.Document.Toml.Moment
import DiskPlan.Document.Toml.Number
import DiskPlan.Document.Toml.Text
import DiskPlan.Document.Toml.Tree

/-!
# Keys and values in TOML

Keys are bare words or texts on one line, joined by dots.  Values are texts, numbers, moments, truth
values, lists, which may run over lines and hold comments, and tables in braces, which may not.
Nesting and dotted keys are bounded by `maxDepth`.

The readers here take a bound on the number of their calls.  Each call but those that close a list
or a table takes a character from the text, so twice its length is always enough.
-/
namespace DiskPlan.Document.Toml

/-- Lists, tables in braces and dotted keys must be less deep than this. -/
def maxDepth : Nat := 80

/-- A text without its leading blanks. -/
def skipBlanks (cs : List Char) : List Char := cs.dropWhile isBlank

/-- A text behind blanks, line breaks and comments that end with a line break. -/
def skipFiller (inComment : Bool) : List Char → List Char
  | [] => []
  | c :: cs =>
    if c = '\n' then skipFiller false cs
    else if inComment then if isTextChar c then skipFiller true cs else c :: cs
    else if isBlank c then skipFiller false cs
    else if c = '#' then skipFiller true cs
    else c :: cs

/-! ## Keys -/

/-- Whether a character may stand in a bare key. -/
def isBare (c : Char) : Bool := c.isAlphanum || c == '_' || c == '-'

/-- Reads one part of a key; gives it and what follows it. -/
def keyPart? (cs : List Char) : Option (String × List Char) :=
  if cs.head?.any isQuote then lineText? cs
  else
    match cs.span isBare with
    | ([], _) => none
    | (part, rest) => some (String.ofList part, rest)

/-- Reads the parts of a dotted key with blanks around them. -/
def keyParts? : Nat → List Char → Option (List String × List Char)
  | 0, _ => none
  | fuel + 1, cs => do
    let (part, rest) ← keyPart? (skipBlanks cs)
    match skipBlanks rest with
    | '.' :: rest => do
      let (parts, rest) ← keyParts? fuel rest
      return (part :: parts, rest)
    | rest => return ([part], rest)

/-- Reads a dotted key: the path, the last part, and what follows. -/
def key? (cs : List Char) : Option (List String × String × List Char) := do
  let (parts, rest) ← keyParts? (cs.length + 1) cs
  if maxDepth ≤ parts.length then none
  else return (parts.dropLast, ← parts.getLast?, rest)

/-- Reads a dotted key and the equals sign with the blanks behind it. -/
def keyAndSign? (cs : List Char) : Option (List String × String × List Char) := do
  let (path, key, rest) ← key? cs
  let rest ← mark? '=' rest
  return (path, key, skipBlanks rest)

/-! ## Values -/

/-- Reads a value that is neither a list nor a table. -/
def scalar? (cs : List Char) : Option (Datum × List Char) :=
  match cs with
  | 't' :: 'r' :: 'u' :: 'e' :: rest => some (.bool true, rest)
  | 'f' :: 'a' :: 'l' :: 's' :: 'e' :: rest => some (.bool false, rest)
  | _ =>
    if cs.head?.any isQuote then (text? cs).map fun (s, rest) => (.text s, rest)
    else if startsDate cs || startsTime cs then moment? cs
    else number? cs

mutual

/-- Reads a value at a depth; gives it and what follows it. -/
def value? : Nat → Nat → List Char → Option (Datum × List Char)
  | 0, _, _ => none
  | fuel + 1, depth, cs =>
    match cs with
    | '[' :: rest =>
      if maxDepth ≤ depth + 1 then none
      else (items? fuel (depth + 1) rest).map fun (items, rest) => (.list items, rest)
    | '\x7b' :: rest =>
      if maxDepth ≤ depth + 1 then none
      else
        match skipBlanks rest with
        | '\x7d' :: rest => some (.table [], rest)
        | rest => do
          let (entries, rest) ← entries? fuel (depth + 1) rest
          return (← inlineTable? entries, rest)
    | cs => scalar? cs

/-- Reads the values of a list up to its end. -/
def items? : Nat → Nat → List Char → Option (List Datum × List Char)
  | 0, _, _ => none
  | fuel + 1, depth, cs =>
    match skipFiller false cs with
    | ']' :: rest => some ([], rest)
    | cs => do
      let (item, rest) ← value? fuel depth cs
      match skipFiller false rest with
      | ']' :: rest => return ([item], rest)
      | ',' :: rest => do
        let (items, rest) ← items? fuel depth rest
        return (item :: items, rest)
      | _ => none

/-- Reads the entries of a table in braces up to its end. -/
def entries? : Nat → Nat → List Char → Option (List Entry × List Char)
  | 0, _, _ => none
  | fuel + 1, depth, cs => do
    let (path, key, rest) ← keyAndSign? cs
    let (value, rest) ← value? fuel depth rest
    match skipBlanks rest with
    | '\x7d' :: rest => return ([⟨path, key, value⟩], rest)
    | ',' :: rest => do
      let (entries, rest) ← entries? fuel depth rest
      return (⟨path, key, value⟩ :: entries, rest)
    | _ => none

end

/-- Reads a value outside of lists and tables. -/
def outerValue? (cs : List Char) : Option (Datum × List Char) := value? (2 * cs.length + 2) 0 cs

end DiskPlan.Document.Toml
