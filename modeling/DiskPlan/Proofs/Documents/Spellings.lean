import DiskPlan.Proofs.Documents.Records
import DiskPlan.Proofs.Size.Notation

/-!
# Sizes that are spelled as texts

A least size may be given as a number or as a text.  One document is a spelling of another when some
of the least sizes in it, the numbers under the key `minsize`, are replaced by the texts of their
decimal digits; which of them is left open, on every level.

A decoder reads all spellings of a datum (`Decoder.ReadsSpellings`) when it does so for the parts of
the datum: texts have no other spelling, lists and records are spelled part by part, and the field
of a least size reads both spellings of its value.  For records this is said of their entries before
they are put together (`Fields.Spelled`), since some share a table with the fields of another.
-/
namespace DiskPlan

open Size (limit)

namespace Datum

mutual

/-- `value'` is `value` with some of the least sizes in it spelled as texts. -/
inductive IsSpellingOf : Datum → Datum → Prop where
  /-- Nothing has to be spelled. -/
  | same (value : Datum) : IsSpellingOf value value
  /-- A list is spelled value by value. -/
  | list {values' values : List Datum} (h : List.Forall₂ IsSpellingOf values' values) :
    IsSpellingOf (.list values') (.list values)
  /-- A table is spelled entry by entry. -/
  | table {entries' entries : List (Option String × Datum)}
    (h : List.Forall₂ IsEntrySpellingOf entries' entries) :
    IsSpellingOf (.table entries') (.table entries)

/-- An entry of a table has the least sizes in its value spelled, or is such a size itself. -/
inductive IsEntrySpellingOf : Option String × Datum → Option String × Datum → Prop where
  /-- The key stays, and the value is spelled. -/
  | value {key : Option String} {value' value : Datum} (h : IsSpellingOf value' value) :
    IsEntrySpellingOf (key, value') (key, value)
  /-- A least size becomes the text of its decimal digits. -/
  | minsize (n : Nat) :
    IsEntrySpellingOf (some "minsize", .text (toString n)) (some "minsize", .nat n)

end

lemma nat_injective : Function.Injective nat := fun _ _ h => Int.ofNat.inj (integer.inj h)

/-- A field of a record with the least sizes in it spelled. -/
def IsFieldSpellingOf (f' f : String × Datum) : Prop :=
  IsEntrySpellingOf (some f'.1, f'.2) (some f.1, f.2)

lemma IsFieldSpellingOf.exists_value {f' : String × Datum} {name : String} {value : Datum}
    (h : IsFieldSpellingOf f' (name, value)) (hname : name ≠ "minsize") :
    ∃ value', f' = (name, value') ∧ value'.IsSpellingOf value := by
  obtain ⟨name', value'⟩ := f'
  cases h with
  | value h => exact ⟨value', rfl, h⟩
  | minsize n => exact absurd rfl hname

lemma IsFieldSpellingOf.eq_or_eq {f' : String × Datum} {n : Nat}
    (h : IsFieldSpellingOf f' ("minsize", .nat n)) :
    f' = ("minsize", .nat n) ∨ f' = ("minsize", .text (toString n)) := by
  obtain ⟨name', value'⟩ := f'
  generalize hvalue : Datum.nat n = value at h
  cases h with
  | value h =>
    subst hvalue
    cases h with
    | same => exact .inl rfl
  | minsize n' =>
    obtain rfl : n = n' := nat_injective hvalue
    exact .inr rfl

/-- The keys of a record are kept, so a spelling of it is a record. -/
lemma exists_record_of_forall₂ {entries : List (Option String × Datum)}
    {fields : List (String × Datum)}
    (h : List.Forall₂ (fun e f => IsEntrySpellingOf e (some f.1, f.2)) entries fields) :
    ∃ fields', Datum.table entries = .record fields'
      ∧ List.Forall₂ IsFieldSpellingOf fields' fields := by
  induction h with
  | nil => exact ⟨[], rfl, .nil⟩
  | @cons e f entries fields hentry _ ih =>
    obtain ⟨fields', hrecord, hfields⟩ := ih
    obtain ⟨key, value'⟩ := e
    obtain rfl : key = some f.1 := by
      generalize hf : (some f.1, f.2) = entry at hentry
      cases hentry with
      | value h => exact (Prod.ext_iff.mp hf).1.symm
      | minsize n => exact (Prod.ext_iff.mp hf).1.symm
    refine ⟨(f.1, value') :: fields', ?_, .cons hentry hfields⟩
    rw [record, Datum.table.injEq] at hrecord
    rw [record, hrecord, List.map_cons]

lemma IsSpellingOf.exists_record {value' : Datum} {fields : List (String × Datum)}
    (h : value'.IsSpellingOf (.record fields)) :
    ∃ fields', value' = .record fields' ∧ List.Forall₂ IsFieldSpellingOf fields' fields := by
  cases h with
  | same => exact ⟨fields, rfl, List.forall₂_same.mpr fun f _ => .value (.same f.2)⟩
  | table h => exact exists_record_of_forall₂ (List.forall₂_map_right_iff.mp h)

lemma IsSpellingOf.exists_list {value' : Datum} {values : List Datum}
    (h : value'.IsSpellingOf (.list values)) :
    ∃ values', value' = .list values' ∧ List.Forall₂ IsSpellingOf values' values := by
  cases h with
  | same => exact ⟨values, rfl, List.forall₂_same.mpr fun value _ => .same value⟩
  | list h => exact ⟨_, rfl, h⟩

lemma IsSpellingOf.ne_null {value' value : Datum} (h : value'.IsSpellingOf value)
    (hvalue : value ≠ .null) : value' ≠ .null := by
  cases h with
  | same => exact hvalue
  | list h => exact nofun
  | table h => exact nofun

end Datum

namespace Document

/-! ## Single values -/

namespace Decoder

variable {α : Type} {decode : Decoder α} {value : Datum} {a : α}

/-- A value is read from a datum and from every other spelling of it. -/
def ReadsSpellings (decode : Decoder α) (value : Datum) (a : α) : Prop :=
  ∀ value' : Datum, value'.IsSpellingOf value → decode.Reads value' a

lemma ReadsSpellings.reads (h : decode.ReadsSpellings value a) : decode.Reads value a :=
  h value (.same value)

/-- A text stands in one spelling only. -/
lemma Reads.readsSpellings {s : String} (h : decode.Reads (.text s) a) :
    decode.ReadsSpellings (.text s) a := by
  intro value' hvalue'
  cases hvalue' with
  | same => exact h

lemma readsSpellings_text (s : String) : text.ReadsSpellings (.text s) s :=
  (reads_text s).readsSpellings

lemma readsSpellings_keyword [Keyword α] (h : Keyword.ofWord? (Keyword.word a) = some a) :
    keyword.ReadsSpellings (Encoder.keyword a) a :=
  (reads_keyword h).readsSpellings

lemma ReadsSpellings.optional (h : decode.ReadsSpellings value a) (hvalue : value ≠ .null) :
    (Decoder.optional decode).ReadsSpellings value (some a) :=
  fun value' hvalue' => (h value' hvalue').optional (hvalue'.ne_null hvalue)

lemma readsSpellings_list {encode : α → Datum} {as : List α}
    (h : ∀ a ∈ as, decode.ReadsSpellings (encode a) a) :
    (list decode).ReadsSpellings (Encoder.list encode as) as := by
  intro value' hvalue'
  obtain ⟨values', rfl, hvalues⟩ := hvalue'.exists_list
  have hboth := (List.forall₂_and_left as values').mpr
    ⟨h, (List.forall₂_map_right_iff.mp hvalues).flip⟩
  exact reads_items (hboth.imp fun _ _ hvalue => hvalue.1 _ hvalue.2).flip

lemma reads_size_nat (n : Nat) : size.Reads (.nat n) n := ⟨rfl, fun _ => rfl⟩

lemma reads_size_text {n : Nat} (h : n < limit) : size.Reads (.text (toString n)) n where
  isUsable := rfl
  eq_ok m := by
    rw [size, Size.read_toString h]
    rfl

end Decoder

/-! ## Records -/

namespace Fields

variable {α : Type} {αs : List Type}

/-- Some entries write the values of a record, however the least sizes in them are spelled. -/
def Spelled (fields : Fields αs) (row : Row αs) (entries : List (String × Datum)) : Prop :=
  ∀ entries' : List (String × Datum), List.Forall₂ Datum.IsFieldSpellingOf entries' entries →
    fields.Written row entries'

namespace Spelled

variable {name : String} {decode : Decoder α} {default : Option α} {rest : Fields αs}
  {row : Row αs} {entries : List (String × Datum)} {value : Datum} {a : α}

lemma nil : Spelled .nil () [] := by
  intro entries' h
  cases h with
  | nil => exact .nil

/-- A field that is no least size has its own name in every spelling. -/
lemma entry (hname : name ≠ "minsize") (hvalue : decode.ReadsSpellings value a)
    (h : Spelled rest row entries) :
    Spelled (.cons name decode default rest) (a, row) (Encoder.field name value ++ entries) := by
  intro entries' hentries
  cases hentries with
  | cons hfield hrest =>
    obtain ⟨value', rfl, hvalue'⟩ := hfield.exists_value hname
    exact .entry (hvalue value' hvalue') (h _ hrest)

lemma omitted (h : Spelled rest row entries) :
    Spelled (.cons name decode (some a) rest) (a, row) entries :=
  fun entries' hentries => .omitted (h entries' hentries)

lemma possible {encode : α → Datum} {o : Option α} (hname : name ≠ "minsize")
    (hvalue : ∀ a ∈ o, decode.ReadsSpellings (encode a) a) (hnull : ∀ a, encode a ≠ .null)
    (h : Spelled rest row entries) :
    Spelled (Document.possible name decode rest) (o, row)
      (Encoder.ifSet name encode o ++ entries) :=
  match o with
  | none => omitted h
  | some a => entry hname ((hvalue a rfl).optional (hnull a)) h

/-- A least size is left out when it is zero, and read in both spellings when it is not. -/
lemma minsize {n : Nat} (hfit : n < limit) (h : Spelled rest row entries) :
    Spelled (Document.defaulted "minsize" .size 0 rest) (n, row)
      (Encoder.unlessZero "minsize" n ++ entries) := by
  rw [Encoder.unlessZero]
  split
  · next hzero =>
    subst hzero
    exact omitted h
  · intro entries' hentries
    cases hentries with
    | cons hfield hrest =>
      obtain rfl | rfl := hfield.eq_or_eq
      · exact .entry (Decoder.reads_size_nat n) (h _ hrest)
      · exact .entry (Decoder.reads_size_text hfit) (h _ hrest)

/-- A record is read from every spelling of its table. -/
lemma reads {fields : Fields αs} (h : fields.Spelled row entries) (hnodup : fields.names.Nodup)
    (build : Row αs → α) : (fields.decode build).ReadsSpellings (.record entries) (build row) := by
  intro value' hvalue'
  obtain ⟨entries', rfl, hentries⟩ := hvalue'.exists_record
  exact (h entries' hentries).reads hnodup build

end Spelled

/-- A record with a list as its only field. -/
lemma readsSpellings_onlyList {β : Type} {name : String} {decode : Decoder α} {encode : α → Datum}
    {as : List α} (hname : name ≠ "minsize") (h : ∀ a ∈ as, decode.ReadsSpellings (encode a) a)
    (build : Row [List α] → β) :
    ((Document.defaulted name (.list decode) [] .nil).decode build).ReadsSpellings
      (.record (Encoder.field name (Encoder.list encode as))) (build (as, ())) := by
  have hspelled : (Document.defaulted name (.list decode) [] .nil).Spelled (as, ()) _ :=
    .entry hname (Decoder.readsSpellings_list h) .nil
  exact hspelled.reads (List.pairwise_singleton _ _) build

end Fields

end Document
end DiskPlan
