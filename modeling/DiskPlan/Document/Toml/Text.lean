import DiskPlan.Text.Hexadecimal

/-!
# Texts in TOML

A text stands between double quotes, where a backslash begins an escape, or between single quotes,
where nothing is escaped.  Three quotes begin a text that may run over several lines: a line break
right behind them does not count, one or two quotes may stand in it or before its closing three, and
in double quotes a backslash at the end of a line takes away the blanks and line breaks that follow.
Line breaks are single line feeds here.
-/
namespace DiskPlan.Document.Toml

/-- The two blanks of TOML. -/
def isBlank (c : Char) : Bool := c == ' ' || c == '\t'

/-- Whether a character may stand for itself in a text on one line, or in a comment: any but the
controls other than the tab. -/
def isTextChar (c : Char) : Bool := c == '\t' || (0x20 ≤ c.toNat && c.toNat != 0x7f)

/-- How a text is written. -/
structure TextForm where
  /-- The quote around it. -/
  quote : Char
  /-- Whether it is between three quotes. -/
  multiline : Bool
  deriving Repr, DecidableEq

/-- Whether a backslash begins an escape. -/
def TextForm.escapes (f : TextForm) : Bool := f.quote == '"'

/-- Where in a text its reading stands. -/
inductive TextPlace where
  /-- Among its characters. -/
  | plain
  /-- Behind some quotes in a text on several lines. -/
  | quotes (count : Nat)
  /-- Behind a backslash. -/
  | backslash
  /-- In an escape by number, with so many digits to come and the value of those before. -/
  | digits (left value : Nat)
  /-- Behind a backslash and blanks, before the line break that must follow. -/
  | lineEnd
  /-- Behind a backslash and a line break, among the blanks that do not count. -/
  | trim
  deriving Repr, DecidableEq

/-- What reading one more character of a text comes to; the text so far is reversed. -/
inductive TextStep where
  /-- The text goes on. -/
  | next (place : TextPlace) (rev : List Char)
  /-- The text ended, with this character or before it. -/
  | stop (rev : List Char) (used : Bool)
  /-- The character may not stand there. -/
  | fail

/-- The character that a backslash and a letter stand for. -/
def letterEscape? : Char → Option Char
  | '"' => some '"'
  | '\\' => some '\\'
  | 'b' => some '\x08'
  | 'f' => some '\x0c'
  | 'n' => some '\n'
  | 'r' => some '\r'
  | 't' => some '\t'
  | _ => none

/-- The character of a code point, if there is one. -/
def charOf? (n : Nat) : Option Char := if n.isValidChar then some (Char.ofNat n) else none

namespace TextForm

variable (f : TextForm)

/-- Reads a character among others. -/
def stepPlain (rev : List Char) (c : Char) : TextStep :=
  if c = f.quote then if f.multiline then .next (.quotes 1) rev else .stop rev true
  else if f.escapes ∧ c = '\\' then .next .backslash rev
  else if isTextChar c ∨ (f.multiline ∧ c = '\n') then .next .plain (c :: rev)
  else .fail

/-- A text with quotes behind it. -/
def withQuotes (count : Nat) (rev : List Char) : List Char := List.replicate count f.quote ++ rev

/-- Reads a character behind quotes: three of them close the text, and up to two more before them
belong to it. -/
def stepQuotes (count : Nat) (rev : List Char) (c : Char) : TextStep :=
  if c = f.quote then
    if count = 4 then .stop (f.withQuotes 2 rev) true else .next (.quotes (count + 1)) rev
  else if 3 ≤ count then .stop (f.withQuotes (count - 3) rev) false
  else f.stepPlain (f.withQuotes count rev) c

/-- Reads the character behind a backslash. -/
def stepBackslash (rev : List Char) (c : Char) : TextStep :=
  if c = 'u' then .next (.digits 4 0) rev
  else if c = 'U' then .next (.digits 8 0) rev
  else if f.multiline ∧ isBlank c then .next .lineEnd rev
  else if f.multiline ∧ c = '\n' then .next .trim rev
  else
    match letterEscape? c with
    | some e => .next .plain (e :: rev)
    | none => .fail

/-- Reads a digit of an escape by number. -/
def stepDigits (left value : Nat) (rev : List Char) (c : Char) : TextStep :=
  match Text.hexValue? c with
  | none => .fail
  | some digit =>
    let value := 16 * value + digit
    if 1 < left then .next (.digits (left - 1) value) rev
    else
      match charOf? value with
      | some e => .next .plain (e :: rev)
      | none => .fail

/-- Reads one more character of a text. -/
def step (place : TextPlace) (rev : List Char) (c : Char) : TextStep :=
  match place with
  | .plain => f.stepPlain rev c
  | .quotes count => f.stepQuotes count rev c
  | .backslash => f.stepBackslash rev c
  | .digits left value => stepDigits left value rev c
  | .lineEnd =>
    if isBlank c then .next .lineEnd rev else if c = '\n' then .next .trim rev else .fail
  | .trim => if isBlank c ∨ c = '\n' then .next .trim rev else f.stepPlain rev c

/-- Reads the rest of a text; gives the text and what follows it. -/
def rest? (place : TextPlace) (rev : List Char) : List Char → Option (String × List Char)
  | [] =>
    match place with
    | .quotes count =>
      if 3 ≤ count then some (String.ofList (f.withQuotes (count - 3) rev).reverse, []) else none
    | _ => none
  | c :: cs =>
    match f.step place rev c with
    | .next place rev => rest? place rev cs
    | .stop rev true => some (String.ofList rev.reverse, cs)
    | .stop rev false => some (String.ofList rev.reverse, c :: cs)
    | .fail => none

/-- Reads a text behind its opening quotes. -/
def body? (cs : List Char) : Option (String × List Char) :=
  match f.multiline, cs with
  | true, '\n' :: cs => f.rest? .plain [] cs
  | _, cs => f.rest? .plain [] cs

end TextForm

/-- Whether a character is a quote. -/
def isQuote (c : Char) : Bool := c == '"' || c == '\''

/-- Reads a text on one line, as keys are written; gives the text and what follows it. -/
def lineText? : List Char → Option (String × List Char)
  | [] => none
  | c :: cs => if isQuote c then TextForm.body? ⟨c, false⟩ cs else none

/-- Reads a text; gives the text and what follows it. -/
def text? : List Char → Option (String × List Char)
  | c :: d :: e :: cs =>
    if isQuote c ∧ c = d ∧ d = e then TextForm.body? ⟨c, true⟩ cs else lineText? (c :: d :: e :: cs)
  | cs => lineText? cs

end DiskPlan.Document.Toml
