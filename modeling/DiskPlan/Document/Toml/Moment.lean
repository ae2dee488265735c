import DiskPlan.Document.Datum

/-!
# Dates and times in TOML

A date, a time of day, or both joined by `T` or a blank, perhaps with an offset from universal time.
Months, days and the parts of a time must exist: the days of February depend on the year, and a
minute may have a leap second.
-/
namespace DiskPlan.Document.Toml

/-- Reads a number of exactly `n` digits between two bounds; gives it and what follows it. -/
def field? (n low high : Nat) (cs : List Char) : Option (Nat × List Char) :=
  let digits := cs.take n
  let value := digits.foldl (fun v d => 10 * v + (d.toNat - '0'.toNat)) 0
  if digits.length = n ∧ digits.all Char.isDigit ∧ low ≤ value ∧ value ≤ high then
    some (value, cs.drop n)
  else none

/-- Reads one fixed character; gives what follows it. -/
def mark? (c : Char) : List Char → Option (List Char)
  | d :: cs => if c = d then some cs else none
  | [] => none

/-- Whether a year has a leap day. -/
def isLeap (year : Nat) : Bool := year % 4 = 0 && (year % 100 ≠ 0 || year % 400 = 0)

/-- The number of days of a month. -/
def daysOf (year month : Nat) : Nat :=
  if month = 2 then if isLeap year then 29 else 28
  else if [4, 6, 9, 11].contains month then 30
  else 31

/-- Reads a date; gives what follows it. -/
def date? (cs : List Char) : Option (List Char) := do
  let (year, cs) ← field? 4 0 9999 cs
  let cs ← mark? '-' cs
  let (month, cs) ← field? 2 1 12 cs
  let cs ← mark? '-' cs
  let (_, cs) ← field? 2 1 (daysOf year month) cs
  return cs

/-- Reads the fraction of a second, if there is one; gives what follows it. -/
def secondFraction? : List Char → Option (List Char)
  | '.' :: c :: cs => if c.isDigit then some (cs.dropWhile Char.isDigit) else none
  | ['.'] => none
  | cs => some cs

/-- Reads hours and minutes; gives what follows them. -/
def hourMinute? (cs : List Char) : Option (List Char) := do
  let (_, cs) ← field? 2 0 23 cs
  let cs ← mark? ':' cs
  let (_, cs) ← field? 2 0 59 cs
  return cs

/-- Reads a time of day; gives what follows it. -/
def time? (cs : List Char) : Option (List Char) := do
  let cs ← hourMinute? cs
  let cs ← mark? ':' cs
  let (_, cs) ← field? 2 0 60 cs
  secondFraction? cs

/-- Reads an offset from universal time, if there is one; gives what follows it. -/
def offset? : List Char → Option (List Char)
  | [] => some []
  | c :: cs =>
    if c = 'Z' ∨ c = 'z' then some cs
    else if c = '+' ∨ c = '-' then hourMinute? cs
    else some (c :: cs)

/-- Whether a text starts like a date. -/
def startsDate (cs : List Char) : Bool := ((field? 4 0 9999 cs).bind fun r => mark? '-' r.2).isSome

/-- Whether a text starts like a time of day. -/
def startsTime (cs : List Char) : Bool := ((field? 2 0 99 cs).bind fun r => mark? ':' r.2).isSome

/-- Whether a character joins a date and a time. -/
def isJoint (c : Char) : Bool := c == 'T' || c == 't' || c == ' '

/-- Reads the time behind a date, if there is one; gives what follows it. -/
def timeOfDate? : List Char → Option (List Char)
  | [] => some []
  | c :: cs => if isJoint c ∧ startsTime cs then (time? cs).bind offset? else some (c :: cs)

/-- Reads a date, a time or both; gives what follows it. -/
def momentEnd? (cs : List Char) : Option (List Char) :=
  if startsDate cs then (date? cs).bind timeOfDate? else time? cs

/-- Reads a date, a time or both; gives its value and what follows it. -/
def moment? (cs : List Char) : Option (Datum × List Char) :=
  (momentEnd? cs).map fun rest =>
    (.moment (String.ofList (cs.take (cs.length - rest.length))), rest)

end DiskPlan.Document.Toml
