import DiskPlan.Customization.Document
import DiskPlan.Document.Reading
import DiskPlan.Error

/-!
# Loading customizations

A customization is a JSON text or a TOML text.  Of a file the name tells which: it is TOML when the
extension is exactly `toml`, and else JSON.
-/
namespace DiskPlan

/-- The extension of a file name: what stands behind its last dot, unless nothing stands before
it. -/
def extension? (name : String) : Option String :=
  let reversed := name.toList.reverse
  match reversed.dropWhile (· != '.') with
  | '.' :: _ :: _ => some (String.ofList (reversed.takeWhile (· != '.')).reverse)
  | _ => none

/-- The last component of a path. -/
def fileName (path : String) : String :=
  String.ofList (path.toList.reverse.takeWhile (· != '/')).reverse

/-- The format of a file of that name. -/
def formatOfFile (path : String) : Document.Format :=
  if extension? (fileName path) = some "toml" then .toml else .json

namespace Customization

/-- Reads a customization from a JSON text. -/
def ofJson (text : String) : Except PlanError Customization :=
  (Document.ofText .json decode text).mapError (.unreadableJson text)

/-- Reads a customization from a TOML text. -/
def ofToml (text : String) : Except PlanError Customization :=
  (Document.ofText .toml decode text).mapError .unreadableToml

/-- Reads a customization from a text in a format. -/
def ofText : Document.Format → String → Except PlanError Customization
  | .json => ofJson
  | .toml => ofToml

/-- Reads a customization from the content of a file, if there is such a file. -/
def ofFile (path : String) (content : Option ByteArray) : Except PlanError Customization :=
  match content.bind String.fromUTF8? with
  | none => .error .unreadableFile
  | some text => ofText (formatOfFile path) text

end Customization
end DiskPlan
