import DiskPlan.Text.Hexadecimal

/-!
# Texts in JSON

Between its quotes a JSON text consists of characters and escapes.  An escape by number names a
code unit of UTF-16: two of them, a high and a low surrogate, name one character, and a surrogate
that is alone names none.  Such a text is well formed and yet no text.
-/
namespace DiskPlan.Document.Json

/-- The value of four hexadecimal digits. -/
def hexUnit? (a b c d : Char) : Option Nat := do
  return (((← Text.hexValue? a) * 16 + (← Text.hexValue? b)) * 16 + (← Text.hexValue? c)) * 16 + (← Text.hexValue? d)

/-- The character that a backslash and a letter stand for. -/
def letterEscape? : Char → Option Char
  | '"' => some '"'
  | '\\' => some '\\'
  | '/' => some '/'
  | 'b' => some '\x08'
  | 'f' => some '\x0c'
  | 'n' => some '\n'
  | 'r' => some '\r'
  | 't' => some '\t'
  | _ => none

/-- The code points and code units that a raw text names, after those before it, which are
reversed; nothing when the raw text is not well formed. -/
def unitsAfter (rev : List Nat) : List Char → Option (List Nat)
  | [] => some rev.reverse
  | '\\' :: 'u' :: a :: b :: c :: d :: rest =>
    match hexUnit? a b c d with
    | some unit => unitsAfter (unit :: rev) rest
    | none => none
  | '\\' :: c :: rest =>
    match letterEscape? c with
    | some e => unitsAfter (e.toNat :: rev) rest
    | none => none
  | c :: rest => if c.toNat < 0x20 ∨ c = '\\' then none else unitsAfter (c.toNat :: rev) rest

/-- The code points and code units that a raw text names. -/
def units? (raw : List Char) : Option (List Nat) := unitsAfter [] raw

/-- Whether a code unit is the first half of a pair. -/
def isHighSurrogate (n : Nat) : Bool := 0xd800 ≤ n && n ≤ 0xdbff

/-- Whether a code unit is the second half of a pair. -/
def isLowSurrogate (n : Nat) : Bool := 0xdc00 ≤ n && n ≤ 0xdfff

/-- The characters that code points and code units name, after those before them, which are
reversed; nothing when a surrogate is alone. -/
def joinAfter (rev : List Char) : List Nat → Option (List Char)
  | [] => some rev.reverse
  | [n] =>
    if isHighSurrogate n || isLowSurrogate n then none else some (Char.ofNat n :: rev).reverse
  | n :: m :: rest =>
    if isLowSurrogate n then none
    else if isHighSurrogate n then
      if isLowSurrogate m then
        joinAfter (Char.ofNat (0x10000 + (n - 0xd800) * 0x400 + (m - 0xdc00)) :: rev) rest
      else none
    else joinAfter (Char.ofNat n :: rev) (m :: rest)

/-- The text that code points and code units name, if they name one. -/
def join? (units : List Nat) : Option String := (joinAfter [] units).map String.ofList

/-- A raw text: nothing when it is not well formed, and else its text, if it names one. -/
def unquote? (raw : List Char) : Option (Option String) := (units? raw).map join?

end DiskPlan.Document.Json
