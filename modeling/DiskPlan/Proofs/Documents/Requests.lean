import DiskPlan.Customization.Document
import DiskPlan.Options.Document
import DiskPlan.Proofs.Documents.Spellings
import DiskPlan.Proofs.Documents.Tables

/-!
# Requests survive their documents

What a user asks of an image, and what the caller decides about it, are written as documents from
which they are read back exactly (`decode_requests`).  A customization is read back from every
spelling of its document, too: its least sizes may be numbers or texts, each for itself.  The only
condition is that sizes are byte counts, below the limit of a disk.

Each part of a customization is a record that is spelled from its fields.  A logical volume shares
one table with its filesystem: its name is read where it stands, and no field of the filesystem has
that key.
-/
namespace DiskPlan

open Size (limit)
open Document (Decoder Fields Manner)
open Document.Encoder (ifSet)

/-! ## Words -/

lemma BootMode.ofWord?_word (mode : BootMode) :
    Keyword.ofWord? (Keyword.word mode) = some mode := by
  cases mode <;> decide

lemma SizingMode.ofWord?_word (mode : SizingMode) :
    Keyword.ofWord? (Keyword.word mode) = some mode := by
  cases mode <;> decide

/-! ## Sizes in range -/

/-- Whether the least sizes of a volume group and of its volumes are below the limit. -/
def VolumeGroupRequest.InRange (r : VolumeGroupRequest) : Prop :=
  r.minsize < limit ∧ ∀ v ∈ r.logicalVolumes, v.filesystem.minsize < limit

instance (r : VolumeGroupRequest) : Decidable r.InRange :=
  inferInstanceAs (Decidable (_ ∧ ∀ v ∈ r.logicalVolumes, v.filesystem.minsize < limit))

/-- Whether the least sizes that are asked for are below the limit, as byte counts are. -/
def Customization.InRange (c : Customization) : Prop :=
  c.minsize < limit ∧ (∀ r ∈ c.plainFilesystems, r.minsize < limit)
    ∧ (∀ r ∈ c.volumeGroups, r.InRange) ∧ ∀ r ∈ c.btrfsVolumes, r.minsize < limit

instance (c : Customization) : Decidable c.InRange :=
  inferInstanceAs (Decidable (_ ∧ (∀ r ∈ c.plainFilesystems, r.minsize < limit)
    ∧ (∀ r ∈ c.volumeGroups, r.InRange) ∧ ∀ r ∈ c.btrfsVolumes, r.minsize < limit))

/-- Whether the sizes that directories need are below the limit, as byte counts are. -/
def Options.InRange (o : Options) : Prop := ∀ e ∈ o.requiredSizes.entries, e.2 < limit

instance (o : Options) : Decidable o.InRange :=
  inferInstanceAs (Decidable (∀ e ∈ o.requiredSizes.entries, e.2 < limit))

/-! ## Plain filesystems -/

namespace FilesystemRequest

lemma spelled {r : FilesystemRequest} (h : r.minsize < limit) :
    fields.Spelled (r.mountpoint, r.minsize, r.label, r.type, ()) r.encodeFields := by
  have hspelled : fields.Spelled (r.mountpoint, r.minsize, r.label, r.type, ()) _ :=
    .entry (by decide) (Decoder.readsSpellings_text _) <| .minsize h <|
      .possible (by decide) (fun _ _ => Decoder.readsSpellings_text _) nofun <|
      .possible (by decide)
        (fun _ _ => Decoder.readsSpellings_keyword (FsType.ofWord?_word _)) nofun .nil
  simpa only [encodeFields, List.append_assoc, List.append_nil] using hspelled

lemma readsSpellings_encode {r : FilesystemRequest} (h : r.minsize < limit) :
    decode.ReadsSpellings r.encode r :=
  (spelled h).reads (by decide) _

end FilesystemRequest

lemma PlainRequest.readsSpellings_encode {r : PlainRequest}
    (h : ∀ f ∈ r.filesystems, f.minsize < limit) : decode.ReadsSpellings r.encode r :=
  Fields.readsSpellings_onlyList (by decide)
    (fun f hf => FilesystemRequest.readsSpellings_encode (h f hf)) _

/-! ## Volume groups -/

namespace LogicalVolumeRequest

/-- The entries that are no name are taken up as they are. -/
lemma take_map {m : Manner} {parts : Parts} {entries : List (String × Datum)}
    (hname : ∀ e ∈ entries, e.1 ≠ "name") (husable : ∀ e ∈ entries, e.2.isUsable = true) :
    take m parts (entries.map fun e => (some e.1, e.2)) =
      .ok { parts with rev := (entries.map fun e => (some e.1, e.2)).reverse ++ parts.rev } := by
  induction entries generalizing parts with
  | nil => rfl
  | cons e entries ih =>
    rw [List.forall_mem_cons] at hname husable
    rw [List.map_cons, take, if_neg hname.1, if_pos husable.1, ih hname.2 husable.2,
      List.reverse_cons, List.append_assoc]
    rfl

/-- A name in front of the other entries is read, and they are taken up as they are. -/
lemma take_ifSet {m : Manner} {name : Option String} {entries : List (String × Datum)}
    (hname : ∀ e ∈ entries, e.1 ≠ "name") (husable : ∀ e ∈ entries, e.2.isUsable = true) :
    take m {} ((ifSet "name" .text name ++ entries).map fun e => (some e.1, e.2)) =
      .ok { name := name.map some, rev := (entries.map fun e => (some e.1, e.2)).reverse } := by
  cases name with
  | none =>
    refine (take_map hname husable).trans ?_
    rw [List.append_nil]
    rfl
  | some name =>
    have hread : Decoder.optional .text m (.text name) = .ok (some name) := rfl
    refine (if_pos rfl).trans ?_
    rw [hread, ok_bind]
    refine (take_map hname husable).trans ?_
    rw [List.append_nil]
    rfl

/-- What is written as a filesystem is read as a logical volume, behind a name or without one. -/
lemma reads_of_written {r : LogicalVolumeRequest} {entries : List (String × Datum)}
    (h : FilesystemRequest.fields.Written
      (r.filesystem.mountpoint, r.filesystem.minsize, r.filesystem.label, r.filesystem.type, ())
      entries) :
    decode.Reads (.record (ifSet "name" .text r.name ++ entries)) r where
  isUsable := by
    refine Fields.haveUsable_map (List.forall_mem_append.mpr ⟨?_, h.isUsable⟩)
    cases r.name with
    | none => exact List.forall_mem_nil _
    | some name => exact List.forall_mem_singleton.mpr rfl
  eq_ok m := by
    have hname : ∀ e ∈ entries, e.1 ≠ "name" := fun e he heq =>
      absurd (h.key_mem e he) (heq ▸ by decide)
    have hfilesystem : FilesystemRequest.decode { m with held := true } (.record entries) =
        .ok r.filesystem := (h.reads (by decide) _).eq_ok _
    have hgiven : (r.name.map some).getD none = r.name := by cases r.name <;> rfl
    rw [Datum.record, decode, take_ifSet hname h.isUsable, ok_bind]
    dsimp only
    rw [List.reverse_reverse, ← Datum.record, hfilesystem, ok_bind, hgiven]
    rfl

lemma readsSpellings_encode {r : LogicalVolumeRequest} (h : r.filesystem.minsize < limit) :
    decode.ReadsSpellings r.encode r := by
  intro value' hvalue'
  obtain ⟨fields', rfl, hfields⟩ := hvalue'.exists_record
  obtain ⟨name, filesystem⟩ := r
  cases name with
  | none => exact reads_of_written (FilesystemRequest.spelled h _ hfields)
  | some name =>
    cases hfields with
    | cons hname hrest =>
      obtain ⟨text, rfl, htext⟩ := hname.exists_value (by decide)
      cases htext with
      | same => exact reads_of_written (FilesystemRequest.spelled h _ hrest)

end LogicalVolumeRequest

lemma VolumeGroupRequest.readsSpellings_encode {r : VolumeGroupRequest} (h : r.InRange) :
    decode.ReadsSpellings r.encode r := by
  have hvolumes := Decoder.readsSpellings_list fun v hv =>
    LogicalVolumeRequest.readsSpellings_encode (h.2 v hv)
  have hspelled : fields.Spelled (r.name, r.minsize, r.logicalVolumes, ()) _ :=
    .entry (by decide) (Decoder.readsSpellings_text _) <| .minsize h.1 <|
      .entry (by decide) hvolumes .nil
  have hreads : decode.ReadsSpellings _ r := hspelled.reads (by decide) _
  simpa only [encode, List.append_assoc, List.append_nil] using hreads

lemma LvmRequest.readsSpellings_encode {r : LvmRequest} (h : ∀ g ∈ r.volumeGroups, g.InRange) :
    decode.ReadsSpellings r.encode r :=
  Fields.readsSpellings_onlyList (by decide)
    (fun g hg => VolumeGroupRequest.readsSpellings_encode (h g hg)) _

/-! ## Btrfs volumes -/

lemma SubvolumeRequest.readsSpellings_encode (r : SubvolumeRequest) :
    decode.ReadsSpellings r.encode r := by
  have hspelled : fields.Spelled (r.name, r.mountpoint, ()) _ :=
    .entry (by decide) (Decoder.readsSpellings_text _) <|
      .entry (by decide) (Decoder.readsSpellings_text _) .nil
  have hreads : decode.ReadsSpellings _ r := hspelled.reads (by decide) _
  simpa only [encode, List.append_nil] using hreads

lemma BtrfsVolumeRequest.readsSpellings_encode {r : BtrfsVolumeRequest} (h : r.minsize < limit) :
    decode.ReadsSpellings r.encode r := by
  have hsubvolumes := Decoder.readsSpellings_list fun s (_ : s ∈ r.subvolumes) =>
    s.readsSpellings_encode
  have hspelled : fields.Spelled (r.minsize, r.subvolumes, ()) _ :=
    .minsize h <| .entry (by decide) hsubvolumes .nil
  have hreads : decode.ReadsSpellings _ r := hspelled.reads (by decide) _
  simpa only [encode, List.append_nil] using hreads

lemma BtrfsRequest.readsSpellings_encode {r : BtrfsRequest}
    (h : ∀ v ∈ r.volumes, v.minsize < limit) : decode.ReadsSpellings r.encode r :=
  Fields.readsSpellings_onlyList (by decide)
    (fun v hv => BtrfsVolumeRequest.readsSpellings_encode (h v hv)) _

/-! ## Customizations and options -/

lemma Customization.readsSpellings_encode {c : Customization} (h : c.InRange) :
    decode.ReadsSpellings c.encode c := by
  obtain ⟨minsize, plain, lvm, btrfs⟩ := c
  obtain ⟨hminsize, hplain, hlvm, hbtrfs⟩ := h
  have hplain' : ∀ r ∈ plain, PlainRequest.decode.ReadsSpellings r.encode r := by
    rintro r rfl
    exact PlainRequest.readsSpellings_encode hplain
  have hlvm' : ∀ r ∈ lvm, LvmRequest.decode.ReadsSpellings r.encode r := by
    rintro r rfl
    exact LvmRequest.readsSpellings_encode hlvm
  have hbtrfs' : ∀ r ∈ btrfs, BtrfsRequest.decode.ReadsSpellings r.encode r := by
    rintro r rfl
    exact BtrfsRequest.readsSpellings_encode hbtrfs
  have hspelled : fields.Spelled (minsize, plain, lvm, btrfs, ()) _ :=
    .minsize hminsize <| .possible (by decide) hplain' nofun <|
      .possible (by decide) hlvm' nofun <| .possible (by decide) hbtrfs' nofun .nil
  have hreads : decode.ReadsSpellings _ { minsize, plain, lvm, btrfs } :=
    hspelled.reads (by decide) _
  simpa only [encode, List.append_assoc, List.append_nil] using hreads

lemma Options.reads_encode {o : Options} (h : o.InRange) : decode.Reads o.encode o := by
  have hsizes : decodeSizes.Reads _ o.requiredSizes :=
    Decoder.reads_map fun e he => Decoder.reads_count (h e he)
  have hwritten : fields.Written
      (o.defaultFsType, o.bootMode, o.tableType, o.requiredSizes, o.mode, ()) _ :=
    .possible (fun _ _ => Decoder.reads_keyword (FsType.ofWord?_word _)) nofun <|
      .defaulted (Decoder.reads_keyword (BootMode.ofWord?_word _)) <|
      .possible (fun _ _ => Decoder.reads_keyword (TableType.ofWord?_word _)) nofun <|
      .defaulted hsizes <| .defaulted (Decoder.reads_keyword (SizingMode.ofWord?_word _)) .nil
  have hreads : decode.Reads _ o := hwritten.reads (by decide) _
  simpa only [encode, List.append_assoc, List.append_nil] using hreads

/-- **Requests survive their documents.**  When its sizes are byte counts, a customization is read
back from the document that it is written as, and from each that only spells some of the least sizes
in that as texts.  Options are read back from theirs. -/
theorem decode_requests {c : Customization} (hc : c.InRange) {o : Options} (ho : o.InRange)
    (m : Manner) :
    Customization.decode m c.encode = .ok c
      ∧ (∀ value : Datum, value.IsSpellingOf c.encode → Customization.decode m value = .ok c)
      ∧ Options.decode m o.encode = .ok o := by
  have hreads := Customization.readsSpellings_encode hc
  refine ⟨hreads.reads.eq_ok m, fun value hvalue => ?_, (Options.reads_encode ho).eq_ok m⟩
  exact (hreads value hvalue).eq_ok m

/-- Least sizes at every place, all but one of them spelled as texts, and options with the largest
byte count. -/
theorem decode_requests_of_texts :
    ∃ (c : Customization) (o : Options) (value : Datum), c.InRange ∧ o.InRange
      ∧ value = .record
        [("minsize", .text "18446744073709551615"),
          ("plain", .record [("filesystems", .list
            [.record [("mountpoint", .text "/"), ("minsize", .text "7"),
              ("label", .text "minsize")]])]),
          ("lvm", .record [("volume-groups", .list
            [.record [("name", .text "vg"), ("minsize", .nat 4194304), ("logical-volumes", .list
              [.record [("name", .text "homelv"), ("mountpoint", .text "/home"),
                ("minsize", .text "10"), ("type", .text "xfs")]])]])]),
          ("btrfs", .record [("volumes", .list
            [.record [("minsize", .text "1"), ("subvolumes", .list [])]])])]
      ∧ o.requiredSizes.entries = [("/", limit - 1), ("/usr", 0)]
      ∧ Customization.decode { format := .json } c.encode = .ok c
      ∧ Customization.decode { format := .json } value = .ok c
      ∧ Options.decode { format := .json } o.encode = .ok o := by
  let c : Customization :=
    { minsize := 18446744073709551615
      plain := some { filesystems :=
        [{ mountpoint := "/", minsize := 7, label := some "minsize" }] }
      lvm := some { volumeGroups :=
        [{ name := "vg", minsize := 4194304, logicalVolumes :=
          [{ name := some "homelv"
             filesystem := { mountpoint := "/home", minsize := 10, type := some .xfs } }] }] }
      btrfs := some { volumes := [{ minsize := 1 }] } }
  let o : Options :=
    { defaultFsType := some .ext4, bootMode := .hybrid, mode := .strict
      requiredSizes := .ofList [("/usr", 0), ("/", 18446744073709551615)] }
  have hc : c.InRange := by decide
  have ho : o.InRange := by decide
  obtain ⟨hcustomization, hspellings, hoptions⟩ := decode_requests hc ho { format := .json }
  refine ⟨c, o, _, hc, ho, rfl, by decide, hcustomization, hspellings _ ?_, hoptions⟩
  have hsame (e : Option String × Datum) : Datum.IsEntrySpellingOf e e := .value (.same e.2)
  refine .table (.cons (.minsize 18446744073709551615) (.cons (.value (.table ?plain))
    (.cons (.value (.table ?lvm)) (.cons (.value (.table ?btrfs)) .nil))))
  case plain =>
    refine .cons (.value (.list (.cons (.table ?_) .nil))) .nil
    exact .cons (hsame _) (.cons (.minsize 7) (.cons (hsame _) .nil))
  case lvm =>
    refine .cons (.value (.list (.cons (.table ?_) .nil))) .nil
    refine .cons (hsame _) (.cons (hsame _) (.cons (.value (.list (.cons (.table ?_) .nil))) .nil))
    exact .cons (hsame _) (.cons (hsame _) (.cons (.minsize 10) (.cons (hsame _) .nil)))
  case btrfs =>
    refine .cons (.value (.list (.cons (.table ?_) .nil))) .nil
    exact .cons (.minsize 1) (.cons (hsame _) .nil)

end DiskPlan
