import DiskPlan.Document.Encoder
import DiskPlan.Document.Record
import DiskPlan.Proofs.Size.Exact
import Mathlib.Data.List.Forall2

/-!
# Reading what was written

When a decoder reads a value from a datum in every manner, the datum can stand for the value in a
document (`Decoder.Reads`).  That is said of a datum and not of an encoder, as one value may be
written in several ways.

A record is written as the table of its fields in order, where a field with its default may be left
out (`Fields.Written`).  The decoder of a record takes the entries up in any order and looks each of
them up among the fields; for a table that is written from the fields of a record, it finds each
entry in the field that it was written for, as the names of the fields are distinct
(`Fields.Written.reads`).
-/
namespace DiskPlan.Document

/-! ## Single values -/

namespace Decoder

variable {α : Type} {decode : Decoder α} {value : Datum} {a : α}

/-- A value is read from a datum, however the document is written. -/
structure Reads (decode : Decoder α) (value : Datum) (a : α) : Prop where
  /-- The datum may be taken whole before it is read. -/
  isUsable : value.isUsable = true
  /-- It is read in every manner. -/
  eq_ok : ∀ m, decode m value = .ok a

lemma reads_bool (b : Bool) : Reads bool (.bool b) b := ⟨rfl, fun _ => rfl⟩

lemma reads_text (s : String) : Reads text (.text s) s := ⟨rfl, fun _ => rfl⟩

/-- Byte counts below the limit are read. -/
lemma reads_count {n : Nat} (h : n < Size.limit) : Reads count (.nat n) n :=
  ⟨rfl, fun _ => if_pos h⟩

/-- A keyword is read from its word, when that is not the word of one before it. -/
lemma reads_keyword [Keyword α] (h : Keyword.ofWord? (Keyword.word a) = some a) :
    Reads keyword (Encoder.keyword a) a where
  isUsable := rfl
  eq_ok m := by
    have hword : keyword m (Encoder.keyword a) = ofWord (α := α) (Keyword.word a) := rfl
    rw [hword, ofWord, h]

/-- What is there is read as such, unless it looks absent. -/
lemma Reads.optional (h : decode.Reads value a) (hvalue : value ≠ .null) :
    (Decoder.optional decode).Reads value (some a) where
  isUsable := h.isUsable
  eq_ok m := by
    rw [Decoder.optional.eq_2 decode m value hvalue, h.eq_ok m]
    rfl

section List

variable {β : Type} {encode : α → Datum} {values : List Datum} {as : List α}

lemma areUsable_of_reads (h : List.Forall₂ decode.Reads values as) :
    Datum.areUsable values = true := by
  induction h with
  | nil => rfl
  | cons hvalue _ ih =>
    rw [Datum.areUsable, hvalue.isUsable, ih]
    rfl

lemma items_of_reads (m : Manner) (h : List.Forall₂ decode.Reads values as) :
    items decode m values = .ok as := by
  induction h with
  | nil => rfl
  | cons hvalue _ ih =>
    rw [items, hvalue.eq_ok m, ok_bind, ih]
    rfl

lemma reads_items (h : List.Forall₂ decode.Reads values as) :
    (list decode).Reads (.list values) as :=
  ⟨areUsable_of_reads h, fun m => items_of_reads m h⟩

lemma reads_list (h : ∀ a ∈ as, decode.Reads (encode a) a) :
    (list decode).Reads (Encoder.list encode as) as :=
  reads_items (List.forall₂_map_left_iff.mpr (List.forall₂_same.mpr h))

end List

end Decoder

/-! ## Records -/

/-- A slot in front of those of a record. -/
def Slots.cons {α : Type} {αs : List Type} (slot : Option α) (slots : Slots αs) :
    Slots (α :: αs) :=
  (slot, slots)

namespace Fields

variable {α : Type} {αs : List Type}

/-- The names of the fields of a record, in order. -/
def names : {αs : List Type} → Fields αs → List String
  | [], .nil => []
  | _ :: _, .cons name _ _ rest => name :: rest.names

/-- Some entries write the values of a record: each field has its entry in its turn, or is left out
when its value is the default. -/
inductive Written : {αs : List Type} → Fields αs → Row αs → List (String × Datum) → Prop where
  | nil : Written .nil () []
  | entry {α : Type} {αs : List Type} {name : String} {decode : Decoder α} {default : Option α}
      {rest : Fields αs} {a : α} {row : Row αs} {value : Datum} {entries : List (String × Datum)}
      (hvalue : decode.Reads value a) (h : Written rest row entries) :
      Written (.cons name decode default rest) (a, row) ((name, value) :: entries)
  | omitted {α : Type} {αs : List Type} {name : String} {decode : Decoder α} {a : α}
      {rest : Fields αs} {row : Row αs} {entries : List (String × Datum)}
      (h : Written rest row entries) :
      Written (.cons name decode (some a) rest) (a, row) entries

namespace Written

variable {name : String} {decode : Decoder α} {rest : Fields αs} {row : Row αs}
  {entries : List (String × Datum)}

lemma required {value : Datum} {a : α} (hvalue : decode.Reads value a)
    (h : Written rest row entries) :
    Written (Document.required name decode rest) (a, row) (Encoder.field name value ++ entries) :=
  .entry hvalue h

lemma defaulted {default : α} {value : Datum} {a : α} (hvalue : decode.Reads value a)
    (h : Written rest row entries) :
    Written (Document.defaulted name decode default rest) (a, row)
      (Encoder.field name value ++ entries) :=
  .entry hvalue h

/-- A value that is not set is left out. -/
lemma possible {encode : α → Datum} {o : Option α} (hvalue : ∀ a ∈ o, decode.Reads (encode a) a)
    (hnull : ∀ a, encode a ≠ .null) (h : Written rest row entries) :
    Written (Document.possible name decode rest) (o, row)
      (Encoder.ifSet name encode o ++ entries) :=
  match o with
  | none => .omitted h
  | some a => .entry ((hvalue a rfl).optional (hnull a)) h

/-- Only fields have entries. -/
lemma key_mem {fields : Fields αs} (h : fields.Written row entries) :
    ∀ e ∈ entries, e.1 ∈ fields.names := by
  induction h with
  | nil => exact List.forall_mem_nil _
  | entry hvalue h ih =>
    refine List.forall_mem_cons.mpr ⟨List.mem_cons_self, fun e he => ?_⟩
    exact List.mem_cons_of_mem _ (ih e he)
  | omitted h ih => exact fun e he => List.mem_cons_of_mem _ (ih e he)

lemma isUsable {fields : Fields αs} (h : fields.Written row entries) :
    ∀ e ∈ entries, e.2.isUsable = true := by
  induction h with
  | nil => exact List.forall_mem_nil _
  | entry hvalue h ih => exact List.forall_mem_cons.mpr ⟨hvalue.isUsable, ih⟩
  | omitted h ih => exact ih

end Written

lemma haveUsable_map {entries : List (String × Datum)} (h : ∀ e ∈ entries, e.2.isUsable = true) :
    Datum.haveUsable (entries.map fun e => (some e.1, e.2)) = true := by
  induction entries with
  | nil => rfl
  | cons e entries ih =>
    rw [List.forall_mem_cons] at h
    rw [List.map_cons, Datum.haveUsable, h.1, ih h.2]
    rfl

lemma putAll_entry (fields : Fields αs) (m : Manner) (slots : Slots αs) (e : String × Datum)
    (entries : List (String × Datum)) :
    fields.putAll m slots ((e :: entries).map fun e => (some e.1, e.2)) =
      fields.put m e.1 e.2 slots >>= fun slots =>
        fields.putAll m slots (entries.map fun e => (some e.1, e.2)) := rfl

section Cons

variable {name : String} {decode : Decoder α} {default : Option α} {rest : Fields αs} {m : Manner}

/-- An entry of a field fills its slot. -/
lemma put_cons_self {value : Datum} {a : α} (h : decode m value = .ok a) (slots : Slots αs) :
    (cons name decode default rest).put m name value (.cons none slots) =
      .ok (.cons (some a) slots) := by
  refine (if_pos rfl).trans ?_
  rw [h]
  rfl

/-- Entries of other names pass by a field. -/
lemma putAll_cons {entries : List (String × Datum)} (h : ∀ e ∈ entries, e.1 ≠ name)
    (slot : Option α) (slots : Slots αs) :
    (cons name decode default rest).putAll m (.cons slot slots)
        (entries.map fun e => (some e.1, e.2)) =
      (rest.putAll m slots (entries.map fun e => (some e.1, e.2))).map (.cons slot) := by
  induction entries generalizing slots with
  | nil => rfl
  | cons e entries ih =>
    rw [List.forall_mem_cons] at h
    have hput : (cons name decode default rest).put m e.1 e.2 (.cons slot slots) =
        (rest.put m e.1 e.2 slots).map (.cons slot) := if_neg h.1
    rw [putAll_entry, putAll_entry, hput]
    rcases rest.put m e.1 e.2 slots with fault | slots
    · rfl
    · exact ih h.2 slots

end Cons

/-- The entries of a record fill its fields with their values. -/
lemma Written.fill {fields : Fields αs} {row : Row αs} {entries : List (String × Datum)}
    (h : fields.Written row entries) (hnodup : fields.names.Nodup) (m : Manner) :
    ∃ slots, fields.putAll m fields.blank (entries.map fun e => (some e.1, e.2)) = .ok slots
      ∧ fields.fill slots = .ok row := by
  induction h with
  | nil => exact ⟨(), rfl, rfl⟩
  | @entry α αs name decode default rest a row value entries hvalue h ih =>
    obtain ⟨hname, hrest⟩ := List.nodup_cons.mp hnodup
    obtain ⟨slots, hput, hfill⟩ := ih hrest
    have hother : ∀ e ∈ entries, e.1 ≠ name := fun e he heq => hname (heq ▸ h.key_mem e he)
    refine ⟨.cons (some a) slots, ?_, ?_⟩
    · have hblank : (cons name decode default rest).blank = .cons none rest.blank := rfl
      rw [putAll_entry, hblank, put_cons_self (hvalue.eq_ok m), ok_bind, putAll_cons hother, hput]
      rfl
    · exact congrArg (Except.map fun row => (a, row)) hfill
  | @omitted α αs name decode a rest row entries h ih =>
    obtain ⟨hname, hrest⟩ := List.nodup_cons.mp hnodup
    obtain ⟨slots, hput, hfill⟩ := ih hrest
    have hother : ∀ e ∈ entries, e.1 ≠ name := fun e he heq => hname (heq ▸ h.key_mem e he)
    refine ⟨.cons none slots, ?_, ?_⟩
    · have hblank : (cons name decode (some a) rest).blank = .cons none rest.blank := rfl
      rw [hblank, putAll_cons hother, hput]
      rfl
    · exact congrArg (Except.map fun row => (a, row)) hfill

/-- **A record is read from the table that it is written as.** -/
lemma Written.reads {fields : Fields αs} {row : Row αs} {entries : List (String × Datum)}
    (h : fields.Written row entries) (hnodup : fields.names.Nodup) (build : Row αs → α) :
    (fields.decode build).Reads (.record entries) (build row) where
  isUsable := haveUsable_map h.isUsable
  eq_ok m := by
    obtain ⟨slots, hput, hfill⟩ := h.fill hnodup m
    have hdecoder : fields.decoder m (.record entries) = .ok row := by
      rw [Datum.record, decoder, hput, ok_bind, hfill]
    rw [decode, hdecoder]
    rfl

end Fields

/-! ## Maps -/

namespace Decoder

variable {α : Type} {decode : Decoder α} {encode : α → Datum}

/-- Entries in the order of their keys are put one behind the other. -/
lemma entries_eq_ok (m : Manner) {pairs : List (String × α)} {map result : PathMap α}
    (h : ∀ e ∈ pairs, decode.Reads (encode e.2) e.2)
    (hresult : result.entries = map.entries ++ pairs) :
    entries decode m map (pairs.map fun e => (some e.1, encode e.2)) = .ok result := by
  induction pairs generalizing map with
  | nil =>
    rw [List.append_nil] at hresult
    rw [PathMap.ext hresult]
    rfl
  | cons e pairs ih =>
    obtain ⟨key, a⟩ := e
    obtain ⟨ha, hpairs⟩ := List.forall_mem_cons.mp h
    have hlast : ∀ e ∈ map.entries, e.1 < key := by
      have hascending := result.ascending
      rw [hresult, List.pairwise_append] at hascending
      exact fun e he => hascending.2.2 e he _ List.mem_cons_self
    have hinsert : (map.insert key a).entries = map.entries ++ [(key, a)] :=
      PathMap.insertEntry_of_lt hlast
    rw [List.map_cons, entries, ha.eq_ok m, ok_bind]
    refine ih hpairs ?_
    rw [hinsert, hresult, List.append_assoc, List.singleton_append]

lemma reads_map {map : PathMap α} (h : ∀ e ∈ map.entries, decode.Reads (encode e.2) e.2) :
    (Decoder.map decode).Reads (Encoder.map encode map) map where
  isUsable := by
    refine Fields.haveUsable_map ?_
    rw [List.forall_mem_map]
    exact fun e he => (h e he).isUsable
  eq_ok m := by
    have hentries : entries decode m .empty
        (map.entries.map fun e => (some e.1, encode e.2)) = .ok map := entries_eq_ok m h rfl
    rw [Encoder.map, Datum.record, List.map_map]
    exact hentries

end Decoder
end DiskPlan.Document
