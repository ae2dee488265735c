import DiskPlan.Proofs.Identification.Gaps

/-!
# Identifiers that subvolumes share

The subvolumes of a btrfs volume are mounted by the identifier of the volume, so all of them should
have it.  Identification gives it to those that have none.  A volume that has none itself gets a new
one, also when its subvolumes agree on another: identifiers that are set are kept, but they are not
taken over by the volume.  So what agrees before identification agrees afterwards, whatever is
drawn, just when no volume is without the identifier of its subvolumes
(`Table.identify_shares_iff`).
-/
namespace DiskPlan

open Identifier (Kind)

/-! ## The btrfs volumes of a table -/

namespace BtrfsVolume

/-- The identifiers that are set in a volume, its own and those of its subvolumes. -/
def uuids (v : BtrfsVolume) : List String := v.uuid.toList ++ v.subvolumes.filterMap (·.uuid)

/-- Whether all subvolumes have the identifier of their volume. -/
def SharesUuid (v : BtrfsVolume) : Prop := ∀ s ∈ v.subvolumes, s.uuid = v.uuid

instance (v : BtrfsVolume) : Decidable v.SharesUuid :=
  inferInstanceAs (Decidable (∀ s ∈ v.subvolumes, s.uuid = v.uuid))

end BtrfsVolume

/-- The btrfs volume on a partition. -/
def Partition.btrfs? (p : Partition) : Option BtrfsVolume :=
  match p.payload with
  | some (.btrfs volume) => some volume
  | _ => none

/-- The btrfs volumes of a table, in the order of the disk. -/
def Table.btrfsVolumes (t : Table) : List BtrfsVolume := t.partitions.filterMap (·.btrfs?)

/-! ## Volumes with their identifiers -/

namespace BtrfsVolume

variable {v' v : BtrfsVolume}

/-- Subvolumes that agree share the new identifier of their volume when it is the one they have. -/
lemma IsIdentificationOf.sharesUuid_iff (h : v'.IsIdentificationOf v)
    (hagree : ∀ a ∈ v.uuids, ∀ b ∈ v.uuids, a = b) :
    v'.SharesUuid ↔
      (v.uuid = none → ∀ s ∈ v.subvolumes, ∀ id, s.uuid = some id → v'.uuid = some id) := by
  obtain ⟨new, rfl⟩ := h
  constructor
  · intro hshares hnone s hs id hid
    have hsame := hshares _ (List.mem_map_of_mem hs)
    rw [← hsame, hid]
    rfl
  · intro hnew s' hs'
    obtain ⟨s, hs, rfl⟩ := List.mem_map.mp hs'
    rcases hid : s.uuid with _ | id
    · simp
    · -- the subvolume keeps its own, which is that of the volume or else what it gets
      rcases hown : v.uuid with _ | own
      · have hdrawn := hnew hown s hs id hid
        simpa [hown] using hdrawn.symm
      · have hs_mem : id ∈ v.uuids :=
          List.mem_append_right _ (List.mem_filterMap.mpr ⟨s, hs, hid⟩)
        have hv_mem : own ∈ v.uuids := List.mem_append_left _ (by simp [hown])
        simpa using hagree id hs_mem own hv_mem

/-- `v'` is the volume `v` with its identifier, which is drawn from the stream if it had none. -/
def IsDrawn (stream : ByteStream) (v' v : BtrfsVolume) : Prop :=
  v'.IsIdentificationOf v ∧ (v.uuid = none →
    ∃ start, v'.uuid = some (Kind.uuid.text (stream.chunk start Kind.uuid.length)))

lemma isDrawn_identify {stream s : ByteStream} (hs : s.byte = stream.byte) (v : BtrfsVolume) :
    IsDrawn stream (v.identify.run s).1 v := by
  refine ⟨v.isIdentificationOf_identify s, fun hnone => ⟨s.position, ?_⟩⟩
  have hchunk : s.chunk s.position Kind.uuid.length = stream.chunk s.position Kind.uuid.length := by
    rw [ByteStream.chunk, hs, ByteStream.chunk]
  rw [← hchunk, identify, hnone]
  rfl

end BtrfsVolume

/-- What each run of a stateful map makes of its element the map makes of a list, when each run
keeps what is needed of the state. -/
lemma forall₂_run_mapM_of {α β σ : Type} {R : α → β → Prop} {I : σ → Prop} {f : β → StateM σ α}
    (hR : ∀ b s, I s → R ((f b).run s).1 b) (hI : ∀ b s, I s → I ((f b).run s).2)
    (bs : List β) {s : σ} (hs : I s) : List.Forall₂ R ((bs.mapM f).run s).1 bs := by
  induction bs generalizing s with
  | nil => exact .nil
  | cons b bs ih =>
    rw [List.mapM_cons]
    exact .cons (hR b s hs) (ih (hI b s hs))

lemma Partition.isDrawn_btrfs?_identify {stream s : ByteStream} (type : TableType) (p : Partition)
    (hs : s.byte = stream.byte) :
    Option.Rel (BtrfsVolume.IsDrawn stream) ((p.identify type).run s).1.btrfs? p.btrfs? := by
  -- what is drawn for the partition itself leaves the bytes behind it as they are
  obtain ⟨-, hnext⟩ := p.fills_ownIdentifier type s
  have hbyte : ((p.ownIdentifier type).run s).2.byte = stream.byte := by
    rw [hnext]
    exact hs
  obtain ⟨start, size, code, bootable, uuid, payload⟩ := p
  rcases payload with _ | ⟨fs | group | volume⟩
  · exact .none
  · exact .none
  · exact .none
  · exact .some (volume.isDrawn_identify hbyte)

lemma Table.isDrawn_btrfsVolumes_identify (t : Table) (stream : ByteStream) :
    List.Forall₂ (BtrfsVolume.IsDrawn stream) (t.identify.run stream).1.btrfsVolumes
      t.btrfsVolumes := by
  obtain ⟨-, hnext⟩ := fills_keepOr .uuid t.uuid stream
  have hpartitions : List.Forall₂
      (fun p' p : Partition => Option.Rel (BtrfsVolume.IsDrawn stream) p'.btrfs? p.btrfs?)
      (t.identify.run stream).1.partitions t.partitions := by
    refine forall₂_run_mapM_of (I := fun s => s.byte = stream.byte)
      (fun p s hs => p.isDrawn_btrfs?_identify t.type hs) (fun p s hs => ?_) t.partitions ?_
    · rw [(p.fills_identify t.type s).2]
      exact hs
    · exact (congrArg ByteStream.byte hnext).trans rfl
  exact List.rel_filterMap (fun _ _ hp => hp) hpartitions

/-! ## Streams of one byte -/

lemma ByteStream.chunk_cycle_singleton (b : UInt8) (start n : Nat) :
    (cycle [b]).chunk start n = List.replicate n b := by
  rw [chunk, List.eq_replicate_iff]
  refine ⟨by simp, fun c hc => ?_⟩
  obtain ⟨i, -, rfl⟩ := List.mem_map.mp hc
  simp [cycle, Nat.mod_one]

/-- Two streams of one byte each never lead to the same identifier. -/
lemma Identifier.Kind.text_replicate_ne :
    Kind.uuid.text (List.replicate Kind.uuid.length 0) ≠
      Kind.uuid.text (List.replicate Kind.uuid.length 1) := by
  decide

/-! ## What is shared -/

section Pairs

variable {α β : Type} {R S : α → β → Prop} {as : List α} {bs : List β}

lemma exists_mem_of_forall₂ (h : List.Forall₂ R as bs) {b : β} (hb : b ∈ bs) :
    ∃ a ∈ as, R a b := by
  induction h with
  | nil => cases hb
  | cons hab _ ih =>
    rcases List.mem_cons.mp hb with rfl | hb
    · exact ⟨_, List.mem_cons_self, hab⟩
    · obtain ⟨a, ha, hR⟩ := ih hb
      exact ⟨a, List.mem_cons_of_mem _ ha, hR⟩

lemma forall₂_imp_of_mem (h : List.Forall₂ R as bs) (hS : ∀ a, ∀ b ∈ bs, R a b → S a b) :
    List.Forall₂ S as bs := by
  induction h with
  | nil => exact .nil
  | cons hab _ ih =>
    refine .cons (hS _ _ List.mem_cons_self hab) (ih fun a b hb => ?_)
    exact hS a b (List.mem_cons_of_mem _ hb)

end Pairs

/-- **Subvolumes share the identifier of a volume that has it or can choose it freely.**  Let all
identifiers that are set in a volume agree.  Then a volume with its identifier shares it with its
subvolumes, but for one that had none while its subvolumes had one, and got another.  Whatever is
drawn, all volumes share their identifiers just when there is no such volume. -/
theorem Table.identify_shares_iff {t : Table}
    (hagree : ∀ v ∈ t.btrfsVolumes, ∀ a ∈ v.uuids, ∀ b ∈ v.uuids, a = b) :
    (∀ stream, List.Forall₂ (fun v' v => v'.SharesUuid ↔
        (v.uuid = none → ∀ s ∈ v.subvolumes, ∀ id, s.uuid = some id → v'.uuid = some id))
      (t.identify.run stream).1.btrfsVolumes t.btrfsVolumes)
    ∧ ((∀ stream, ∀ v ∈ (t.identify.run stream).1.btrfsVolumes, v.SharesUuid) ↔
      ∀ v ∈ t.btrfsVolumes, v.uuid = none → ∀ s ∈ v.subvolumes, s.uuid = none) := by
  have hdrawn := t.isDrawn_btrfsVolumes_identify
  have hshares (stream : ByteStream) : List.Forall₂ (fun v' v => v'.SharesUuid ↔
        (v.uuid = none → ∀ s ∈ v.subvolumes, ∀ id, s.uuid = some id → v'.uuid = some id))
      (t.identify.run stream).1.btrfsVolumes t.btrfsVolumes :=
    forall₂_imp_of_mem (hdrawn stream) fun v' v hv h => h.1.sharesUuid_iff (hagree v hv)
  refine ⟨hshares, fun hall v hv hnone s hs => ?_, fun hfree stream => ?_⟩
  · -- a subvolume that had an identifier would have the one drawn from any stream
    by_contra hsome
    obtain ⟨id, hid⟩ := Option.ne_none_iff_exists'.mp hsome
    have hconstant (b : UInt8) :
        id = Kind.uuid.text (List.replicate Kind.uuid.length b) := by
      obtain ⟨v', hv', hidentified, hnew⟩ := exists_mem_of_forall₂ (hdrawn (.cycle [b])) hv
      obtain ⟨start, hstart⟩ := hnew hnone
      have hshared := hall (.cycle [b]) v' hv'
      rw [hidentified.sharesUuid_iff (hagree v hv)] at hshared
      have htaken := hshared hnone s hs id hid
      rw [htaken, ByteStream.chunk_cycle_singleton] at hstart
      exact Option.some.inj hstart
    exact Kind.text_replicate_ne ((hconstant 0).symm.trans (hconstant 1))
  · refine forall_mem_of_forall₂ (Q := fun v => v ∈ t.btrfsVolumes) ?_ (hshares stream)
      fun v hv => hv
    intro v' v hiff hv
    refine hiff.mpr fun hnone s hs id hid => ?_
    rw [hfree v hv hnone s hs] at hid
    cases hid

/-- A volume gives its new identifier to subvolumes without one, and its old one as well. -/
theorem Table.identify_shares_of_unset :
    ∃ t : Table, t.btrfsVolumes.map (·.uuids) = [[], ["x", "x"]]
      ∧ (∀ v ∈ t.btrfsVolumes, ∀ a ∈ v.uuids, ∀ b ∈ v.uuids, a = b)
      ∧ ∀ stream, ∀ v ∈ (t.identify.run stream).1.btrfsVolumes, v.SharesUuid := by
  refine ⟨{ type := .gpt, partitions :=
      [{ size := 1048576, type := "a", payload := some (.btrfs { subvolumes :=
          [{ name := "root", mountpoint := "/" }, { name := "home", mountpoint := "/home" }] }) },
        { size := 1048576, type := "a", payload := some (.btrfs { uuid := some "x", subvolumes :=
          [{ name := "var", mountpoint := "/var" },
            { name := "srv", mountpoint := "/srv", uuid := some "x" }] }) }] },
    by decide, by decide, ?_⟩
  exact (Table.identify_shares_iff (by decide)).2.mpr (by decide)

/-- A volume whose subvolume has an identifier gets another one. -/
theorem Table.exists_identify_not_shared :
    ∃ (t : Table) (stream : ByteStream),
      (∀ v ∈ t.btrfsVolumes, ∀ a ∈ v.uuids, ∀ b ∈ v.uuids, a = b)
      ∧ ∃ v ∈ (t.identify.run stream).1.btrfsVolumes, ¬ v.SharesUuid := by
  refine ⟨{ type := .gpt, partitions :=
      [{ size := 1048576, type := "a", payload := some (.btrfs { subvolumes :=
          [{ name := "root", mountpoint := "/", uuid := some "x" }] }) }] },
    .counting 0, by decide, ?_⟩
  decide

end DiskPlan
