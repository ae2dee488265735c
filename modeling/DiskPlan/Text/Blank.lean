/-!
# Blank characters

The characters that Unicode lists as white space (property `White_Space`): the ASCII controls from
tab to carriage return, the space, and the breaking and non-breaking spaces of other scripts.
-/
namespace DiskPlan.Text

/-- The code points of white space, as closed ranges in ascending order. -/
def blankRanges : List (Nat × Nat) :=
  [(0x9, 0xd), (0x20, 0x20), (0x85, 0x85), (0xa0, 0xa0), (0x1680, 0x1680), (0x2000, 0x200a),
    (0x2028, 0x2029), (0x202f, 0x202f), (0x205f, 0x205f), (0x3000, 0x3000)]

/-- Whether a character is white space. -/
def isBlank (c : Char) : Bool :=
  blankRanges.any fun r => r.1 ≤ c.toNat && c.toNat ≤ r.2

/-- The list without its leading white space. -/
def dropBlanks (cs : List Char) : List Char := cs.dropWhile isBlank

/-- There are twenty-five of them. -/
example : (blankRanges.map fun r => r.2 + 1 - r.1).sum = 25 := by decide

end DiskPlan.Text
