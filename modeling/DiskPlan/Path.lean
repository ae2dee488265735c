/-!
# Paths

A path is its text.  A mount at one path holds a directory when the mountpoint is the directory
itself, the root, or a leading run of whole components of it; a path is canonical when none of its
components is empty, `.` or `..`.  Of several mountpoints that hold a directory the deepest one,
the longest text, is its owner.
-/
namespace DiskPlan.Path

/-- The root directory. -/
def root : String := "/"

/-- Whether a mount at `mountpoint` holds the directory `dir`. -/
def holds (mountpoint dir : String) : Bool :=
  mountpoint == dir || mountpoint == root
    || (mountpoint.toList ++ ['/']).isPrefixOf dir.toList

/-- The pieces between the slashes of a text: one more than there are slashes. -/
def pieces : List Char → List (List Char)
  | [] => [[]]
  | c :: cs =>
    if c = '/' then [] :: pieces cs
    else
      match pieces cs with
      | [] => [[c]]
      | piece :: rest => (c :: piece) :: rest

/-- Whether a piece of a path names something below its directory. -/
def isName (piece : List Char) : Bool := piece != [] && piece != ['.'] && piece != ['.', '.']

/-- A text without one leading slash. -/
def relative : List Char → List Char
  | '/' :: cs => cs
  | cs => cs

/-- Whether a path starts at the root. -/
def isAbsolute (path : String) : Bool := path.toList.head? == some '/'

/-- Whether a path is the root, or its components, after one leading slash if it has one, are all
names: none is empty, `.` or `..`. -/
def isCanonical (path : String) : Bool :=
  path == root || (pieces (relative path.toList)).all isName

/-- The longer of a candidate and the best before it, lengths counted in bytes of UTF-8; of two
equally long ones the later. -/
def longer (best : Option String) (candidate : String) : Option String :=
  match best with
  | none => some candidate
  | some b => if b.utf8ByteSize ≤ candidate.utf8ByteSize then some candidate else some b

/-- The longest of the mountpoints that hold `dir`. -/
def deepest (mountpoints : List String) (dir : String) : Option String :=
  (mountpoints.filter (holds · dir)).foldl longer none

end DiskPlan.Path
