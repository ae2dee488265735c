import DiskPlan.Text.Hexadecimal
import DiskPlan.Text.Hidden

/-!
# Quoted text

Messages show a text of the user's between double quotes, so that no character of it can be taken
for the message's own.  The quote and the backslash are escaped, the four common controls have
letters, every other hidden character is written as `\u` with its code point in braces, and all
else stands for itself.
-/
namespace DiskPlan.Text

/-- How one character is written between quotes. -/
def quoteChar (c : Char) : List Char :=
  if c = '"' then ['\\', '"']
  else if c = '\\' then ['\\', '\\']
  else if c = '\x00' then ['\\', '0']
  else if c = '\t' then ['\\', 't']
  else if c = '\r' then ['\\', 'r']
  else if c = '\n' then ['\\', 'n']
  else if isHidden c then ['\\', 'u', '{'] ++ hexDigits c.toNat ++ ['}']
  else [c]

/-- A text between double quotes. -/
def quote (text : String) : String :=
  String.ofList ('"' :: text.toList.flatMap quoteChar ++ ['"'])

end DiskPlan.Text
