import DiskPlan.Document.Decoder
import DiskPlan.Document.Json.Reader
import DiskPlan.Document.Toml.Reader

/-!
# Reading documents

A text is read in two steps: it must be well formed, and its value must fit the decoder.
-/
namespace DiskPlan.Document

variable {α : Type}

/-- The value of a text in a format, if it is well formed. -/
def Format.read? : Format → String → Option Datum
  | .json => Json.read?
  | .toml => Toml.read?

/-- Reads a text in a format. -/
def ofText (format : Format) (decode : Decoder α) (text : String) : Except Fault α :=
  match format.read? text with
  | none => .error .malformed
  | some value => (decode { format } value).mapError .misfit

end DiskPlan.Document
