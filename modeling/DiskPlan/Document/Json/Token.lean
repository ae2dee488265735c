/-!
# The tokens of JSON

A JSON text is cut into punctuation, quoted texts and words.  A word is a longest run of characters
that are neither blank nor punctuation nor a quote; which words are numbers or literals is decided
later.  A quoted text is kept as it is written between its quotes.
-/
namespace DiskPlan.Document.Json

/-- A token of JSON. -/
inductive Token where
  /-- `{` -/
  | openTable
  /-- `}` -/
  | closeTable
  /-- `[` -/
  | openList
  /-- `]` -/
  | closeList
  /-- `:` -/
  | colon
  /-- `,` -/
  | comma
  /-- A text, as it is written between the quotes. -/
  | quoted (raw : List Char)
  /-- A number or a literal. -/
  | word (raw : List Char)
  deriving Repr, DecidableEq

/-- Where in a token a scan stands; what it has read of the token is reversed. -/
inductive Scan where
  /-- Between tokens. -/
  | between
  /-- In a word. -/
  | inWord (rev : List Char)
  /-- In a quoted text. -/
  | inQuotes (rev : List Char)
  /-- In a quoted text, after a backslash. -/
  | afterBackslash (rev : List Char)

/-- The four blanks of JSON. -/
def isBlank (c : Char) : Bool := c == ' ' || c == '\t' || c == '\n' || c == '\r'

/-- The token of a punctuation character. -/
def punctuation? : Char → Option Token
  | '{' => some .openTable
  | '}' => some .closeTable
  | '[' => some .openList
  | ']' => some .closeList
  | ':' => some .colon
  | ',' => some .comma
  | _ => none

/-- What a character does outside of quotes and words, with the tokens so far reversed. -/
def begin (c : Char) (tokens : List Token) : Scan × List Token :=
  if isBlank c then (.between, tokens)
  else if c = '"' then (.inQuotes [], tokens)
  else
    match punctuation? c with
    | some token => (.between, token :: tokens)
    | none => (.inWord [c], tokens)

/-- Whether a character ends a word. -/
def endsWord (c : Char) : Bool := isBlank c || c == '"' || (punctuation? c).isSome

/-- What a character does to a scan, with the tokens so far reversed. -/
def advance (c : Char) : Scan → List Token → Scan × List Token
  | .between, tokens => begin c tokens
  | .inWord rev, tokens =>
    if endsWord c then begin c (.word rev.reverse :: tokens) else (.inWord (c :: rev), tokens)
  | .inQuotes rev, tokens =>
    if c = '"' then (.between, .quoted rev.reverse :: tokens)
    else if c = '\\' then (.afterBackslash (c :: rev), tokens)
    else (.inQuotes (c :: rev), tokens)
  | .afterBackslash rev, tokens => (.inQuotes (c :: rev), tokens)

/-- The tokens of a text after a scan and the tokens before it, which are reversed; nothing when
the text ends between quotes. -/
def scan (state : Scan) (tokens : List Token) : List Char → Option (List Token)
  | [] =>
    match state with
    | .between => some tokens.reverse
    | .inWord rev => some (.word rev.reverse :: tokens).reverse
    | .inQuotes _ | .afterBackslash _ => none
  | c :: cs =>
    let (state, tokens) := advance c state tokens
    scan state tokens cs

/-- The tokens of a text. -/
def tokens? (text : String) : Option (List Token) := scan .between [] text.toList

end DiskPlan.Document.Json
