import DiskPlan.Proofs.Identification.Drawn
import DiskPlan.Proofs.Identification.Filled
import DiskPlan.Proofs.Size.Exact

/-!
# Filling gaps in order

The identifiers of a table have their places in one list of slots, in the order in which the walk of
identification comes by.  Slots that are empty are the gaps, and the walk fills them one after the
other with what comes next in the byte stream: a gap is filled from the bytes right behind those for
the gaps before it, and nothing else is drawn (`Table.identify_fills_gaps`).  So a table without
gaps is left alone, and what stands behind a slot has no influence on it.

Subvolumes have no slots of their own, as what they lack they take over from their volume.
-/
namespace DiskPlan

open Identifier (Kind)

/-! ## Slots -/

/-- A place for an identifier. -/
structure Slot where
  /-- The kind of identifier that is drawn for it. -/
  kind : Kind
  /-- The identifier, if there is one. -/
  id : Option String
  deriving Repr, DecidableEq

namespace Slot

/-- The number of bytes that are drawn for a slot: none if it is filled. -/
def gap (slot : Slot) : Nat := if slot.id.isSome then 0 else slot.kind.length

/-- The slot with its identifier, made of the next bytes of a stream if it has none. -/
def fill (s : ByteStream) (slot : Slot) : Slot :=
  { slot with id := some (slot.id.getD (slot.kind.text (s.chunk s.position slot.kind.length))) }

end Slot

/-- The number of bytes that are drawn for some slots. -/
def gapOf (slots : List Slot) : Nat := Size.total (·.gap) slots

@[simp] lemma gapOf_nil : gapOf [] = 0 := rfl

@[simp] lemma gapOf_cons (slot : Slot) (slots : List Slot) :
    gapOf (slot :: slots) = slot.gap + gapOf slots := rfl

lemma gapOf_append (slots slots' : List Slot) :
    gapOf (slots ++ slots') = gapOf slots + gapOf slots' := by
  induction slots with
  | nil => rw [List.nil_append, gapOf_nil, Nat.zero_add]
  | cons slot slots ih => rw [List.cons_append, gapOf_cons, gapOf_cons, ih, Nat.add_assoc]

/-- Slots filled one after the other. -/
def fillAll : ByteStream → List Slot → List Slot
  | _, [] => []
  | s, slot :: slots => slot.fill s :: fillAll (s.skip slot.gap) slots

lemma fillAll_append (s : ByteStream) (slots slots' : List Slot) :
    fillAll s (slots ++ slots') = fillAll s slots ++ fillAll (s.skip (gapOf slots)) slots' := by
  induction slots generalizing s with
  | nil => rfl
  | cons slot slots ih =>
    rw [List.cons_append, fillAll, ih, ByteStream.skip_skip, fillAll, gapOf_cons, List.cons_append]

/-- A slot is filled from the bytes behind those for the slots before it. -/
lemma getElem?_fillAll (s : ByteStream) (slots : List Slot) (i : Nat) :
    (fillAll s slots)[i]? = slots[i]?.map (·.fill (s.skip (gapOf (slots.take i)))) := by
  induction slots generalizing s i with
  | nil => rfl
  | cons slot slots ih =>
    rw [fillAll]
    cases i with
    | zero => rfl
    | succ i =>
      rw [List.getElem?_cons_succ, List.getElem?_cons_succ, ih, List.take_succ_cons, gapOf_cons,
        ByteStream.skip_skip]

/-! ## The slots of a table -/

/-- The place for the identifier of a filesystem. -/
def Filesystem.slot (fs : Filesystem) : Slot :=
  { kind := if fs.type = .vfat then .serial else .uuid, id := fs.uuid }

/-- The places for the identifier of a volume group and those of its volumes. -/
def VolumeGroup.slots (g : VolumeGroup) : List Slot :=
  { kind := .uuid, id := g.uuid } :: g.logicalVolumes.map (·.payload.slot)

/-- The places for the identifiers of a payload. -/
def Payload.slots : Payload → List Slot
  | .filesystem fs => [fs.slot]
  | .lvm group => group.slots
  | .btrfs volume => [{ kind := .uuid, id := volume.uuid }]

/-- The place for the identifier of a partition itself, which only those of a GPT have. -/
def Partition.ownSlots (type : TableType) (p : Partition) : List Slot :=
  match type with
  | .gpt => [{ kind := .uuid, id := p.uuid }]
  | .dos => []

/-- The places for the identifiers of a partition. -/
def Partition.slots (type : TableType) (p : Partition) : List Slot :=
  p.ownSlots type ++ p.payload.elim [] (·.slots)

/-- The places for the identifiers of a table, in the order in which they are filled. -/
def Table.slots (t : Table) : List Slot :=
  { kind := .uuid, id := t.uuid } :: t.partitions.flatMap (·.slots t.type)

/-! ## The walk through a table -/

/-- Whether a computation fills slots from the stream and draws no more than that. -/
def Fills {α : Type} (slotsOf : α → List Slot) (m : StateM ByteStream α) (slots : List Slot) :
    Prop :=
  ∀ s, slotsOf (m.run s).1 = fillAll s slots ∧ (m.run s).2 = s.skip (gapOf slots)

/-- One identifier is kept, or else drawn. -/
lemma fills_keepOr (kind : Kind) (id : Option String) :
    Fills (fun id => [{ kind, id := some id }]) (keepOr kind.draw id) [{ kind, id }] := by
  intro s
  rcases id with _ | id
  · rw [keepOr, kind.run_draw]
    exact ⟨rfl, rfl⟩
  · exact ⟨rfl, rfl⟩

section Steps

variable {α β γ : Type} {u : α → List Slot} {v : β → List Slot} {w : γ → List Slot}
variable {m : StateM ByteStream α} {n : StateM ByteStream β} {xs ys : List Slot}

lemma Fills.map (h : Fills u m xs) {f : α → γ} (hw : ∀ a, w (f a) = u a) :
    Fills w (do return f (← m)) xs := by
  intro s
  obtain ⟨hslots, hstream⟩ := h s
  exact ⟨(hw _).trans hslots, hstream⟩

/-- The second of two steps goes on in the stream where the first one stopped. -/
lemma Fills.map₂ (hm : Fills u m xs) (hn : Fills v n ys) {f : α → β → γ}
    (hw : ∀ a b, w (f a b) = u a ++ v b) :
    Fills w (do let a ← m; let b ← n; return f a b) (xs ++ ys) := by
  intro s
  obtain ⟨hslots, hstream⟩ := hm s
  obtain ⟨hrest, hend⟩ := hn (m.run s).2
  rw [fillAll_append, gapOf_append, ← ByteStream.skip_skip, ← hslots, ← hstream, ← hrest, ← hend]
  exact ⟨hw _ _, rfl⟩

lemma Fills.mapM {f : β → StateM ByteStream α} {slots : β → List Slot}
    (h : ∀ b, Fills u (f b) (slots b)) (bs : List β) :
    Fills (List.flatMap u) (bs.mapM f) (bs.flatMap slots) := by
  induction bs with
  | nil => exact fun s => ⟨rfl, rfl⟩
  | cons b bs ih =>
    rw [List.mapM_cons, List.flatMap_cons]
    exact (h b).map₂ ih fun a as => List.flatMap_cons

end Steps

lemma Filesystem.fills_identify (fs : Filesystem) :
    Fills (fun fs => [fs.slot]) fs.identify [fs.slot] := by
  have hdraw : (if fs.type = .vfat then Identifier.drawSerial else Identifier.drawUuid) =
      fs.slot.kind.draw := by
    rw [slot]
    split
    · rfl
    · rfl
  rw [identify, hdraw]
  exact (fills_keepOr fs.slot.kind fs.uuid).map fun id => rfl

lemma VolumeGroup.fills_identify (g : VolumeGroup) :
    Fills VolumeGroup.slots g.identify g.slots := by
  have hvolume (v : LogicalVolume) :
      Fills (fun v : LogicalVolume => [v.payload.slot]) v.identify [v.payload.slot] :=
    v.payload.fills_identify.map fun fs => rfl
  rw [slots, List.map_eq_flatMap]
  refine (fills_keepOr .uuid g.uuid).map₂ (Fills.mapM hvolume g.logicalVolumes) ?_
  intro id volumes
  rw [slots, List.map_eq_flatMap]
  rfl

lemma BtrfsVolume.fills_identify (v : BtrfsVolume) :
    Fills (fun v => [{ kind := .uuid, id := v.uuid }]) v.identify
      [{ kind := .uuid, id := v.uuid }] :=
  (fills_keepOr .uuid v.uuid).map fun _ => rfl

lemma Payload.fills_identify (payload : Payload) :
    Fills Payload.slots payload.identify payload.slots := by
  cases payload with
  | filesystem fs => exact fs.fills_identify.map fun fs => rfl
  | lvm group => exact group.fills_identify.map fun group => rfl
  | btrfs volume => exact volume.fills_identify.map fun volume => rfl

lemma Partition.fills_ownIdentifier (type : TableType) (p : Partition) :
    Fills (fun uuid => { p with uuid }.ownSlots type) (p.ownIdentifier type) (p.ownSlots type) := by
  cases type with
  | gpt => exact (fills_keepOr .uuid p.uuid).map fun id => rfl
  | dos => exact fun s => ⟨rfl, rfl⟩

lemma Partition.fills_identify (type : TableType) (p : Partition) :
    Fills (Partition.slots type) (p.identify type) (p.slots type) := by
  have hpayload : Fills (fun payload => payload.elim [] (·.slots)) (p.payload.mapM (·.identify))
      (p.payload.elim [] (·.slots)) := by
    rcases p.payload with _ | payload
    · exact fun s => ⟨rfl, rfl⟩
    · exact payload.fills_identify.map fun payload => rfl
  refine (p.fills_ownIdentifier type).map₂ hpayload fun uuid payload => ?_
  cases type with
  | gpt => rfl
  | dos => rfl

/-- **Identification fills the slots of a table in order.** -/
lemma Table.fills_identify (t : Table) : Fills Table.slots t.identify t.slots :=
  (fills_keepOr .uuid t.uuid).map₂
    (Fills.mapM (Partition.fills_identify t.type) t.partitions) fun _ _ => rfl

/-! ## Tables without gaps -/

section Runs

variable {α β σ : Type}

lemma run_bind_of_run {m : StateM σ α} {f : α → StateM σ β} {s s' : σ} {a : α}
    (h : m.run s = (a, s')) : (m >>= f).run s = (f a).run s' := by
  rw [StateT.run_bind, h]
  rfl

lemma run_mapM_eq_self {f : α → StateM σ α} {as : List α}
    (h : ∀ a ∈ as, ∀ s, (f a).run s = (a, s)) (s : σ) : (as.mapM f).run s = (as, s) := by
  induction as with
  | nil => rfl
  | cons a as ih =>
    obtain ⟨ha, has⟩ := List.forall_mem_cons.mp h
    rw [List.mapM_cons, run_bind_of_run (ha s), run_bind_of_run (ih has)]
    rfl

end Runs

/-- An identifier that is there is kept, and nothing is drawn for it. -/
lemma run_keepOr_of_eq_some {drawn : StateM ByteStream String} {uuid : Option String} {id : String}
    (h : uuid = some id) (s : ByteStream) : (keepOr drawn uuid).run s = (id, s) := by
  rw [h]
  rfl

lemma Filesystem.IsIdentificationOf.run_identify {fs' fs : Filesystem}
    (h : fs'.IsIdentificationOf fs) (s : ByteStream) : fs'.identify.run s = (fs', s) := by
  obtain ⟨id, rfl⟩ := h
  rfl

lemma LogicalVolume.IsIdentificationOf.run_identify {v' v : LogicalVolume}
    (h : v'.IsIdentificationOf v) (s : ByteStream) : v'.identify.run s = (v', s) := by
  rw [identify, run_bind_of_run (h.2.run_identify s)]
  rfl

lemma VolumeGroup.IsIdentificationOf.run_identify {g' g : VolumeGroup}
    (h : g'.IsIdentificationOf g) (s : ByteStream) : g'.identify.run s = (g', s) := by
  obtain ⟨id, hid⟩ := h.uuid_eq
  have hvolumes : ∀ v ∈ g'.logicalVolumes, ∀ s, v.identify.run s = (v, s) :=
    forall_mem_left_of_forall₂ (fun _ _ hv => hv.run_identify) h.volumes
  rw [identify, run_bind_of_run (run_keepOr_of_eq_some hid s),
    run_bind_of_run (run_mapM_eq_self hvolumes s), ← hid]
  rfl

lemma BtrfsVolume.IsIdentificationOf.run_identify {v' v : BtrfsVolume}
    (h : v'.IsIdentificationOf v) (s : ByteStream) : v'.identify.run s = (v', s) := by
  obtain ⟨id, rfl⟩ := h
  rw [identify, run_bind_of_run (run_keepOr_of_eq_some rfl s), List.map_map]
  rfl

lemma Payload.IsIdentificationOf.run_identify {payload' payload : Payload}
    (h : payload'.IsIdentificationOf payload) (s : ByteStream) :
    payload'.identify.run s = (payload', s) := by
  cases h with
  | filesystem hfs =>
    rw [identify, run_bind_of_run (hfs.run_identify s)]
    rfl
  | lvm hg =>
    rw [identify, run_bind_of_run (hg.run_identify s)]
    rfl
  | btrfs hv =>
    rw [identify, run_bind_of_run (hv.run_identify s)]
    rfl

lemma Partition.IsIdentificationOf.run_identify {type : TableType} {p' p : Partition}
    (h : p'.IsIdentificationOf type p) (s : ByteStream) :
    (p'.identify type).run s = (p', s) := by
  obtain ⟨id, hid⟩ := h.uuid_eq
  have hown : (p'.ownIdentifier type).run s = (p'.uuid, s) := by
    cases type with
    | gpt =>
      rw [ownIdentifier, hid]
      rfl
    | dos => rfl
  have hpayload : (p'.payload.mapM Payload.identify).run s = (p'.payload, s) := by
    rcases h.payload_cases with ⟨hnone, -⟩ | ⟨payload', payload, hsome, -, hidentified⟩
    · rw [hnone]
      rfl
    · rw [hsome, Option.mapM_some, map_eq_pure_bind, run_bind_of_run (hidentified.run_identify s)]
      rfl
  rw [identify, run_bind_of_run hown, run_bind_of_run hpayload]
  rfl

/-- **A table with its identifiers is left alone,** and nothing is drawn for it. -/
lemma Table.IsIdentificationOf.run_identify {t' t : Table} (h : t'.IsIdentificationOf t)
    (s : ByteStream) : t'.identify.run s = (t', s) := by
  obtain ⟨id, hid⟩ := h.uuid_eq
  have hpartitions : ∀ p ∈ t'.partitions, ∀ s, (p.identify t'.type).run s = (p, s) := by
    rw [h.type_eq]
    exact forall_mem_left_of_forall₂ (fun _ _ hp => hp.run_identify) h.partitions
  rw [identify, run_bind_of_run (run_keepOr_of_eq_some hid s),
    run_bind_of_run (run_mapM_eq_self hpartitions s), ← hid]
  rfl

/-- Partitions that are added at the end have no influence on what comes before them. -/
lemma Table.identify_append (t : Table) (ps : List Partition) (s : ByteStream) :
    ∃ ps', ({ t with partitions := t.partitions ++ ps }.identify.run s).1 =
      { (t.identify.run s).1 with partitions := (t.identify.run s).1.partitions ++ ps' } := by
  rw [identify]
  simp only [List.mapM_append]
  exact ⟨_, rfl⟩

/-! ## The identified table -/

/-- **Identification fills just the gaps of a table, in order.**  It adds identifiers where there
are none and changes nothing else.  Each gap is filled from the bytes that follow those for the gaps
before it, and no more bytes are drawn than the gaps take.  An identified table has no gaps, so
identifying it again leaves it and the stream alone, and partitions that are added at the end
leave the identifiers of all others as they are. -/
theorem Table.identify_fills_gaps (t : Table) (stream : ByteStream) :
    ∃ t', t.identify.run stream = (t', stream.skip (gapOf t.slots))
      ∧ t'.IsIdentificationOf t
      ∧ (∀ i (slot : Slot), t.slots[i]? = some slot →
        ∃ id, t'.slots[i]? = some { slot with id := some id }
          ∧ (∀ old, slot.id = some old → id = old)
          ∧ (slot.id = none → slot.kind.IsMadeOf
            (stream.chunk (stream.position + gapOf (t.slots.take i)) slot.kind.length) id))
      ∧ (∀ stream', t'.identify.run stream' = (t', stream'))
      ∧ ∀ ps, ∃ ps', ({ t with partitions := t.partitions ++ ps }.identify.run stream).1 =
        { t' with partitions := t'.partitions ++ ps' } := by
  have hidentified := t.isIdentificationOf_identify stream
  obtain ⟨hslots, hend⟩ := t.fills_identify stream
  refine ⟨(t.identify.run stream).1, Prod.ext rfl hend, hidentified, fun i slot hslot => ?_,
    hidentified.run_identify, fun ps => t.identify_append ps stream⟩
  rw [hslots, getElem?_fillAll, hslot]
  refine ⟨_, rfl, fun old hold => by rw [hold]; rfl, fun hgap => ?_⟩
  rw [hgap]
  exact slot.kind.isMadeOf_text (ByteStream.length_chunk _ _ _)

/-- Every kind of identifier is drawn in its turn, but for the one that the second partition has.
The subvolume takes over the last. -/
theorem Table.identify_fills_gaps_of_counting :
    ∃ t t' : Table,
      t.slots.map (·.id) = [none, none, none, some "own", none, none, none, none]
      ∧ t.identify.run (.counting 0xe0) = (t', (ByteStream.counting 0xe0).skip 100)
      ∧ t' = { type := .gpt, uuid := some "e0e1e2e3-e4e5-46e7-a8e9-eaebecedeeef", partitions :=
          [{ size := 1048576, type := "a", uuid := some "f0f1f2f3-f4f5-46f7-b8f9-fafbfcfdfeff",
              payload := some (.filesystem
                { type := .vfat, uuid := some "00010203", mountpoint := some "/boot/efi" }) },
            { size := 8388608, type := "b", uuid := some "own",
              payload := some (.lvm
                { name := "vg", description := "",
                  uuid := some "04050607-0809-4a0b-8c0d-0e0f10111213",
                  logicalVolumes := [{ name := "lv", size := 4194304, payload :=
                    { type := .xfs, uuid := some "14151617-1819-4a1b-9c1d-1e1f20212223",
                      mountpoint := some "/" } }] }) },
            { size := 1048576, type := "c", uuid := some "24252627-2829-4a2b-ac2d-2e2f30313233",
              payload := some (.btrfs
                { uuid := some "34353637-3839-4a3b-bc3d-3e3f40414243", subvolumes :=
                  [{ name := "home", mountpoint := "/home",
                     uuid := some "34353637-3839-4a3b-bc3d-3e3f40414243" }] }) }] } := by
  obtain ⟨t', hrun, -⟩ := Table.identify_fills_gaps
    { type := .gpt, partitions :=
      [{ size := 1048576, type := "a",
         payload := some (.filesystem { type := .vfat, mountpoint := some "/boot/efi" }) },
        { size := 8388608, type := "b", uuid := some "own",
          payload := some (.lvm { name := "vg", description := "", logicalVolumes :=
            [{ name := "lv", size := 4194304,
               payload := { type := .xfs, mountpoint := some "/" } }] }) },
        { size := 1048576, type := "c",
          payload := some (.btrfs { subvolumes := [{ name := "home", mountpoint := "/home" }] }) }] }
    (.counting 0xe0)
  have ht' : t' = _ := (congrArg Prod.fst hrun).symm
  exact ⟨_, t', rfl, hrun, ht'.trans rfl⟩

end DiskPlan
