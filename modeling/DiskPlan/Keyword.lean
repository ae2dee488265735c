/-!
# Keywords

Closed sets of alternatives that are written as fixed words, such as the filesystem types.  A type
of keywords lists its alternatives in order, each with its word; a word is read by looking it up.
-/
namespace DiskPlan

/-- A type whose values are written as fixed words. -/
class Keyword (α : Type) where
  /-- The alternatives, in the order in which they are listed to a user. -/
  all : List α
  /-- The word of an alternative. -/
  word : α → String

namespace Keyword

variable {α : Type} [Keyword α]

/-- The alternative that a word stands for. -/
def ofWord? (text : String) : Option α := all.find? fun a => word a == text

/-- The words of a type, in order. -/
def words (α : Type) [Keyword α] : List String := (all : List α).map word

end Keyword
end DiskPlan
