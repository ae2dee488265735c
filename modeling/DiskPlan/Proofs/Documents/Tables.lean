import DiskPlan.Proofs.Documents.Records
import DiskPlan.Table.Document

/-!
# Tables survive their documents

A table that is written as a document is read back as it was, except that it is not finalized
(`Table.decode_encode`).  The only condition is that its numbers are byte counts, below the limit of
a disk.  Each part of a table is a record that is written from its fields; a payload shares one
table with its kind, whose name none of the payload's own fields has.
-/
namespace DiskPlan

open Size (limit)
open Document (Decoder Manner)
open Document.Fields (Written)

/-! ## Words -/

lemma FsType.ofWord?_word (t : FsType) : Keyword.ofWord? (Keyword.word t) = some t := by
  cases t <;> decide

lemma TableType.ofWord?_word (t : TableType) : Keyword.ofWord? (Keyword.word t) = some t := by
  cases t <;> decide

/-! ## Numbers in range -/

/-- Whether the numbers of a filesystem's mount entry are below the limit. -/
def Filesystem.InRange (fs : Filesystem) : Prop := fs.fstabFreq < limit ∧ fs.fstabPassno < limit

instance (fs : Filesystem) : Decidable fs.InRange := inferInstanceAs (Decidable (_ ∧ _))

/-- Whether the numbers of a logical volume are below the limit. -/
def LogicalVolume.InRange (v : LogicalVolume) : Prop := v.size < limit ∧ v.payload.InRange

instance (v : LogicalVolume) : Decidable v.InRange := inferInstanceAs (Decidable (_ ∧ _))

/-- Whether the size that a subvolume reports is below the limit. -/
def Subvolume.InRange (s : Subvolume) : Prop := ∀ size ∈ s.size, size < limit

instance (s : Subvolume) : Decidable s.InRange :=
  inferInstanceAs (Decidable (∀ size ∈ s.size, size < limit))

/-- Whether the numbers of a payload are below the limit. -/
def Payload.InRange : Payload → Prop
  | .filesystem fs => fs.InRange
  | .lvm group => ∀ v ∈ group.logicalVolumes, v.InRange
  | .btrfs volume => ∀ s ∈ volume.subvolumes, s.InRange

instance : (payload : Payload) → Decidable payload.InRange
  | .filesystem fs => inferInstanceAs (Decidable fs.InRange)
  | .lvm group => inferInstanceAs (Decidable (∀ v ∈ group.logicalVolumes, v.InRange))
  | .btrfs volume => inferInstanceAs (Decidable (∀ s ∈ volume.subvolumes, s.InRange))

/-- Whether the numbers of a partition are below the limit. -/
def Partition.InRange (p : Partition) : Prop :=
  p.start < limit ∧ p.size < limit ∧ ∀ payload ∈ p.payload, payload.InRange

instance (p : Partition) : Decidable p.InRange :=
  inferInstanceAs (Decidable (_ ∧ _ ∧ ∀ payload ∈ p.payload, payload.InRange))

/-- Whether the numbers of a table are below the limit, as byte counts are. -/
def Table.InRange (t : Table) : Prop :=
  t.size < limit ∧ t.sectorSize < limit ∧ ∀ p ∈ t.partitions, p.InRange

instance (t : Table) : Decidable t.InRange :=
  inferInstanceAs (Decidable (_ ∧ _ ∧ ∀ p ∈ t.partitions, p.InRange))

/-! ## The parts of payloads -/

/-- Texts are read where they may be missing. -/
lemma Document.Fields.Written.possibleText {name : String} {o : Option String} {αs : List Type}
    {rest : Document.Fields αs} {row : Document.Row αs} {entries : List (String × Datum)}
    (h : Written rest row entries) :
    Written (Document.possible name .text rest) (o, row)
      (Document.Encoder.ifSet name .text o ++ entries) :=
  h.possible (fun a _ => Decoder.reads_text a) nofun

lemma Filesystem.written {fs : Filesystem} (h : fs.InRange) :
    fields.Written
      (fs.type, fs.uuid, fs.label, fs.mountpoint, fs.fstabOptions, fs.fstabFreq, fs.fstabPassno, ())
      fs.encodeFields := by
  simp only [encodeFields, List.append_assoc]
  exact .required (Decoder.reads_keyword (FsType.ofWord?_word _)) <| .possibleText <|
    .possibleText <| .possibleText <| .defaulted (Decoder.reads_text _) <|
      .defaulted (Decoder.reads_count h.1) <| .defaulted (Decoder.reads_count h.2) .nil

lemma Filesystem.reads_encode {fs : Filesystem} (h : fs.InRange) :
    decode.Reads fs.encode fs :=
  (written h).reads (by decide) _

lemma LogicalVolume.reads_encode {v : LogicalVolume} (h : v.InRange) :
    decode.Reads v.encode v := by
  have hwritten : fields.Written (v.name, v.size, v.payload, ()) _ :=
    .required (Decoder.reads_text _) <| .required (Decoder.reads_count h.1) <|
      .required (Filesystem.reads_encode h.2) .nil
  have hreads : decode.Reads _ v := hwritten.reads (by decide) _
  simpa only [encode, List.append_assoc, List.append_nil] using hreads

lemma VolumeGroup.written {g : VolumeGroup} (h : ∀ v ∈ g.logicalVolumes, v.InRange) :
    fields.Written (g.name, g.description, g.uuid, g.logicalVolumes, ()) g.encodeFields := by
  simp only [encodeFields, List.append_assoc]
  exact .required (Decoder.reads_text _) <| .required (Decoder.reads_text _) <| .possibleText <|
    .defaulted (Decoder.reads_list fun v hv => LogicalVolume.reads_encode (h v hv)) .nil

lemma VolumeGroup.reads_record {g : VolumeGroup} (h : ∀ v ∈ g.logicalVolumes, v.InRange) :
    decode.Reads (.record g.encodeFields) g :=
  (written h).reads (by decide) _

lemma Subvolume.reads_encode {s : Subvolume} (h : s.InRange) : decode.Reads s.encode s := by
  have hwritten : fields.Written (s.name, s.mountpoint, s.uuid, s.size, ()) _ :=
    .required (Decoder.reads_text _) <| .required (Decoder.reads_text _) <| .possibleText <|
      .possible (fun size hsize => Decoder.reads_count (h size hsize)) nofun .nil
  have hreads : decode.Reads _ s := hwritten.reads (by decide) _
  simpa only [encode, List.append_assoc, List.append_nil] using hreads

lemma BtrfsVolume.written {v : BtrfsVolume} (h : ∀ s ∈ v.subvolumes, s.InRange) :
    fields.Written (v.uuid, v.label, v.subvolumes, ()) v.encodeFields := by
  simp only [encodeFields, List.append_assoc]
  exact .possibleText <| .possibleText <|
    .defaulted (Decoder.reads_list fun s hs => Subvolume.reads_encode (h s hs)) .nil

lemma BtrfsVolume.reads_record {v : BtrfsVolume} (h : ∀ s ∈ v.subvolumes, s.InRange) :
    decode.Reads (.record v.encodeFields) v :=
  (written h).reads (by decide) _

/-! ## Payloads -/

namespace Payload

/-- The entries behind the kind of a payload are taken up as they are. -/
lemma take_map {parts : Parts} {entries : List (String × Datum)}
    (hkind : ∀ e ∈ entries, e.1 ≠ "kind") (husable : ∀ e ∈ entries, e.2.isUsable = true) :
    take parts (entries.map fun e => (some e.1, e.2)) =
      .ok { parts with rev := (entries.map fun e => (some e.1, e.2)).reverse ++ parts.rev } := by
  induction entries generalizing parts with
  | nil => rfl
  | cons e entries ih =>
    rw [List.forall_mem_cons] at hkind husable
    rw [List.map_cons, take, if_neg hkind.1, if_pos husable.1, ih hkind.2 husable.2,
      List.reverse_cons, List.append_assoc]
    rfl

/-- What is written as a record, without a field for the kind, is read behind its kind. -/
lemma reads_of_written {αs : List Type} {fields : Document.Fields αs} {row : Document.Row αs}
    {entries : List (String × Datum)} {word : String} {kind : PayloadKind} {payload : Payload}
    (h : fields.Written row entries) (hnames : "kind" ∉ fields.names)
    (hword : Keyword.ofWord? word = some kind)
    (hread : ∀ m, ofKind m (.record entries) kind = .ok payload) :
    decode.Reads (.record (Document.Encoder.field "kind" (.text word) ++ entries)) payload where
  isUsable := Document.Fields.haveUsable_map (List.forall_mem_cons.mpr ⟨rfl, h.isUsable⟩)
  eq_ok m := by
    have hother : ∀ e ∈ entries, e.1 ≠ "kind" := fun e he heq => hnames (heq ▸ h.key_mem e he)
    have hkind : decodeKind (.text word) = .ok kind := by rw [decodeKind, Decoder.ofWord, hword]
    have htake : take {} ((some "kind", .text word) :: entries.map fun e => (some e.1, e.2)) =
        .ok { kind := some kind, rev := (entries.map fun e => (some e.1, e.2)).reverse } := by
      rw [take, if_pos rfl, hkind, ok_bind, take_map hother h.isUsable, List.append_nil]
    rw [Document.Encoder.field, List.singleton_append, Datum.record, List.map_cons, decode, htake,
      ok_bind]
    dsimp only
    rw [List.reverse_reverse]
    exact hread _

/-- A payload is read from its document, whatever its kind. -/
lemma reads_encode {payload : Payload} (h : payload.InRange) :
    decode.Reads payload.encode payload := by
  cases payload with
  | filesystem fs =>
    exact reads_of_written (Filesystem.written h) (by decide) rfl fun m =>
      congrArg (Except.map Payload.filesystem) ((Filesystem.reads_encode h).eq_ok m)
  | lvm group =>
    exact reads_of_written (VolumeGroup.written h) (by decide) rfl fun m =>
      congrArg (Except.map Payload.lvm) ((VolumeGroup.reads_record h).eq_ok m)
  | btrfs volume =>
    exact reads_of_written (BtrfsVolume.written h) (by decide) rfl fun m =>
      congrArg (Except.map Payload.btrfs) ((BtrfsVolume.reads_record h).eq_ok m)

end Payload

/-! ## Tables -/

lemma Partition.reads_encode {p : Partition} (h : p.InRange) : decode.Reads p.encode p := by
  have hwritten : fields.Written (p.start, p.size, p.type, p.bootable, p.uuid, p.payload, ()) _ :=
    .defaulted (Decoder.reads_count h.1) <| .required (Decoder.reads_count h.2.1) <|
      .required (Decoder.reads_text _) <| .defaulted (Decoder.reads_bool _) <| .possibleText <|
      .possible (fun payload hpayload => Payload.reads_encode (h.2.2 payload hpayload)) nofun .nil
  have hreads : decode.Reads _ p := hwritten.reads (by decide) _
  simpa only [encode, List.append_assoc, List.append_nil] using hreads

namespace Table

lemma reads_encode {t : Table} (h : t.InRange) : decode.Reads t.encode t.instantiate := by
  have hwritten : fields.Written (t.type, t.size, t.sectorSize, t.uuid, t.partitions, ()) _ :=
    .required (Decoder.reads_keyword (TableType.ofWord?_word _)) <|
      .defaulted (Decoder.reads_count h.1) <| .defaulted (Decoder.reads_count h.2.1) <|
      .possibleText <|
      .defaulted (Decoder.reads_list fun p hp => Partition.reads_encode (h.2.2 p hp)) .nil
  have hreads : decode.Reads _ t.instantiate := hwritten.reads (by decide) _
  simpa only [encode, List.append_assoc, List.append_nil] using hreads

/-- **A table survives its document.**  When its numbers are byte counts, the table is read back
from the document that it is written as, in JSON as in TOML, and it is as it was but for the mark
that it is finalized. -/
theorem decode_encode {t : Table} (h : t.InRange) (m : Manner) :
    decode m t.encode = .ok t.instantiate :=
  (reads_encode h).eq_ok m

/-- A finalized table with payloads of every kind and with the largest byte count. -/
theorem decode_encode_of_every_kind :
    ∃ t : Table, t.partitions.map (fun p => p.payload.map (·.kind))
        = [none, some "filesystem", some "lvm", some "btrfs"]
      ∧ t.finalized = true ∧ t.size = limit - 1 ∧ t.InRange
      ∧ decode { format := .json } t.encode = .ok { t with finalized := false } := by
  refine ⟨{ type := .dos, size := 18446744073709551615, uuid := some "x", finalized := true
            partitions := [
              { size := 1048576, type := "00", bootable := true },
              { start := 1048576, size := 7, type := "83", uuid := some "",
                payload := some (.filesystem
                  { type := .vfat, label := some "kind", mountpoint := none }) },
              { size := 0, type := "8e", payload := some (.lvm
                { VolumeGroup.new "" with logicalVolumes :=
                  [{ name := "v", size := 4194304, payload := .mountedAt .btrfs "/" }] }) },
              { size := 0, type := "83", payload := some (.btrfs
                { label := some "l", subvolumes :=
                  [{ name := "root", mountpoint := "/", size := some 0 },
                    { name := "var", mountpoint := "/var", uuid := some "y" }] }) }] },
    by decide, rfl, rfl, by decide, ?_⟩
  exact decode_encode (by decide) _

end Table
end DiskPlan
