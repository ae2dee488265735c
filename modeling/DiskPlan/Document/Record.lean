import DiskPlan.Document.Decoder

/-!
# Records in documents

A record is described by its fields: in order, each with its name, its decoder and its default if it
has one.  A record may be written as a table of its fields, in any order and among other keys, or as
the list of its values in the order of the fields, of which those with a default may be missing at
the end.  One description serves both.
-/
namespace DiskPlan.Document

/-- The fields of a record whose values have the given types. -/
inductive Fields : List Type → Type 1 where
  /-- No field. -/
  | nil : Fields []
  /-- A field and the fields behind it. -/
  | cons {α : Type} {αs : List Type} (name : String) (decode : Decoder α) (default : Option α)
      (rest : Fields αs) : Fields (α :: αs)

/-- A value for each field. -/
def Row : List Type → Type
  | [] => Unit
  | α :: αs => α × Row αs

/-- Perhaps a value for each field. -/
def Slots : List Type → Type
  | [] => Unit
  | α :: αs => Option α × Slots αs

namespace Fields

variable {αs : List Type}

/-- No value for any field. -/
def blank : {αs : List Type} → Fields αs → Slots αs
  | [], .nil => ()
  | _ :: _, .cons _ _ _ rest => (none, rest.blank)

/-- Decodes the value of a key into its field, which must not have a value yet; a key that names no
field changes nothing. -/
def put : {αs : List Type} → Fields αs → Manner → String → Datum → Slots αs →
    Except Misfit (Slots αs)
  | [], .nil, _, _, _, () => .ok ()
  | _ :: _, .cons name decode _ rest, m, key, value, (slot, slots) =>
    if key = name then
      match slot with
      | some _ => .error (.duplicateField name)
      | none => (decode m value).map fun a => (some a, slots)
    else (rest.put m key value slots).map fun slots => (slot, slots)

/-- Decodes the entries of a table into their fields, in order. -/
def putAll (fields : Fields αs) (m : Manner) :
    Slots αs → List (Option String × Datum) → Except Misfit (Slots αs)
  | slots, [] => .ok slots
  | slots, (some key, value) :: rest => do
    let slots ← fields.put m key value slots
    fields.putAll m slots rest
  | _, (none, _) :: _ => .error .unfit

/-- The values of all fields, defaults for those that have none. -/
def fill : {αs : List Type} → Fields αs → Slots αs → Except Misfit (Row αs)
  | [], .nil, () => .ok ()
  | _ :: _, .cons name _ default rest, (slot, slots) =>
    match slot.or default with
    | none => .error (.missingField name)
    | some a => (rest.fill slots).map fun row => (a, row)

/-- The values of all fields from a list in their order; values behind the last field are refused in
JSON and passed over in TOML. -/
def ofItems : {αs : List Type} → Fields αs → Manner → List Datum → Except Misfit (Row αs)
  | [], .nil, _, [] => .ok ()
  | [], .nil, m, _ :: _ => if m.format = .toml && !m.held then .ok () else .error .unfit
  | _ :: _, .cons _ decode default rest, m, values =>
    match values, default with
    | value :: values, _ => do
      let a ← decode m value
      return (a, ← rest.ofItems m values)
    | [], some a => (rest.ofItems m []).map fun row => (a, row)
    | [], none => .error .unfit

/-- The decoder of a record with these fields.  A moment is a table that has none of them. -/
def decoder (fields : Fields αs) : Decoder (Row αs)
  | m, .table entries => do fields.fill (← fields.putAll m fields.blank entries)
  | _, .moment _ => fields.fill fields.blank
  | m, .list values => fields.ofItems m values
  | _, _ => .error .unfit

/-- The decoder of a record, built from the values of its fields. -/
def decode {α : Type} (fields : Fields αs) (build : Row αs → α) : Decoder α := fun m value =>
  (fields.decoder m value).map build

end Fields

/-- A field that must be there. -/
def required {α : Type} {αs : List Type} (name : String) (decode : Decoder α) (rest : Fields αs) :
    Fields (α :: αs) :=
  .cons name decode none rest

/-- A field that may be missing. -/
def defaulted {α : Type} {αs : List Type} (name : String) (decode : Decoder α) (default : α)
    (rest : Fields αs) : Fields (α :: αs) :=
  .cons name decode (some default) rest

/-- A field that may be missing or absent. -/
def possible {α : Type} {αs : List Type} (name : String) (decode : Decoder α) (rest : Fields αs) :
    Fields (Option α :: αs) :=
  .cons name (.optional decode) (some none) rest

end DiskPlan.Document
