import DiskPlan.Table.Identification
import Mathlib.Data.List.Forall2

/-!
# Tables with their identifiers

What identification makes of a table, whatever the byte stream: an identifier that is set is kept, a
missing one is filled in, and nothing else changes.  The relation is defined along the data, from
filesystems up to tables, and the walk through a table satisfies it at each step.
-/
namespace DiskPlan

/-! ## Lists that are related element by element -/

section Pointwise

variable {α β γ : Type} {R : α → β → Prop} {as : List α} {bs : List β}

/-- What two steps make of an element they make of each element of a list. -/
lemma forall₂_comp {S : β → γ → Prop} {T : α → γ → Prop} {cs : List γ}
    (h : ∀ a b c, R a b → S b c → T a c) (hR : List.Forall₂ R as bs)
    (hS : List.Forall₂ S bs cs) : List.Forall₂ T as cs := by
  induction hR generalizing cs with
  | nil =>
    cases hS
    exact .nil
  | cons hab _ ih =>
    cases hS with
    | cons hbc hrest => exact .cons (h _ _ _ hab hbc) (ih hrest)

lemma map_eq_of_forall₂ {f : α → γ} {g : β → γ} (h : ∀ a b, R a b → f a = g b)
    (hR : List.Forall₂ R as bs) : as.map f = bs.map g := by
  induction hR with
  | nil => rfl
  | cons hab _ ih => rw [List.map_cons, List.map_cons, h _ _ hab, ih]

/-- What a relation carries over from one element it carries over from a whole list. -/
lemma forall_mem_of_forall₂ {P : α → Prop} {Q : β → Prop} (h : ∀ a b, R a b → Q b → P a)
    (hR : List.Forall₂ R as bs) (hQ : ∀ b ∈ bs, Q b) : ∀ a ∈ as, P a := by
  induction hR with
  | nil => simp
  | cons hab _ ih =>
    obtain ⟨hb, hbs⟩ := List.forall_mem_cons.mp hQ
    exact List.forall_mem_cons.mpr ⟨h _ _ hab hb, ih hbs⟩

lemma forall_mem_left_of_forall₂ {P : α → Prop} (h : ∀ a b, R a b → P a)
    (hR : List.Forall₂ R as bs) : ∀ a ∈ as, P a :=
  forall_mem_of_forall₂ (Q := fun _ => True) (fun a b hab _ => h a b hab) hR fun _ _ => trivial

/-- What each run of a stateful map makes of its element the whole map makes of the list. -/
lemma forall₂_run_mapM {σ : Type} {f : β → StateM σ α} (h : ∀ b s, R ((f b).run s).1 b)
    (bs : List β) (s : σ) : List.Forall₂ R ((bs.mapM f).run s).1 bs := by
  induction bs generalizing s with
  | nil => exact .nil
  | cons b bs ih =>
    rw [List.mapM_cons]
    exact .cons (h b s) (ih ((f b).run s).2)

end Pointwise

/-! ## Identified data -/

/-- `fs'` is the filesystem `fs` with its identifier. -/
def Filesystem.IsIdentificationOf (fs' fs : Filesystem) : Prop :=
  ∃ id, fs' = { fs with uuid := some (fs.uuid.getD id) }

/-- `v'` is the logical volume `v` with the identifier of its filesystem. -/
def LogicalVolume.IsIdentificationOf (v' v : LogicalVolume) : Prop :=
  v' = { v with payload := v'.payload } ∧ v'.payload.IsIdentificationOf v.payload

/-- `g'` is the volume group `g` with its identifier and those of its volumes. -/
structure VolumeGroup.IsIdentificationOf (g' g : VolumeGroup) : Prop where
  /-- Nothing but identifiers is changed. -/
  eq : g' = { g with uuid := g'.uuid, logicalVolumes := g'.logicalVolumes }
  /-- The group has an identifier, and keeps one that was set. -/
  uuid_eq : ∃ id, g'.uuid = some (g.uuid.getD id)
  /-- Its volumes have theirs. -/
  volumes : List.Forall₂ LogicalVolume.IsIdentificationOf g'.logicalVolumes g.logicalVolumes

/-- `v'` is the btrfs volume `v` with its identifier, which its subvolumes without one share. -/
def BtrfsVolume.IsIdentificationOf (v' v : BtrfsVolume) : Prop :=
  ∃ id, v' = { v with
    uuid := some (v.uuid.getD id)
    subvolumes := v.subvolumes.map fun s =>
      { s with uuid := some (s.uuid.getD (v.uuid.getD id)) } }

/-- `payload'` is `payload` with its identifiers. -/
inductive Payload.IsIdentificationOf : Payload → Payload → Prop where
  | filesystem {fs' fs : Filesystem} (h : fs'.IsIdentificationOf fs) :
    IsIdentificationOf (.filesystem fs') (.filesystem fs)
  | lvm {g' g : VolumeGroup} (h : g'.IsIdentificationOf g) : IsIdentificationOf (.lvm g') (.lvm g)
  | btrfs {v' v : BtrfsVolume} (h : v'.IsIdentificationOf v) :
    IsIdentificationOf (.btrfs v') (.btrfs v)

/-- `p'` is the partition `p` of a table of the given kind, with its identifiers. -/
structure Partition.IsIdentificationOf (type : TableType) (p' p : Partition) : Prop where
  /-- Nothing but identifiers is changed. -/
  eq : p' = { p with uuid := p'.uuid, payload := p'.payload }
  /-- In a GPT the partition has an identifier, and keeps one that was set. -/
  uuid_eq : ∃ id, p'.uuid = match type with
    | .gpt => some (p.uuid.getD id)
    | .dos => p.uuid
  /-- What it holds has its identifiers. -/
  payload : Option.Rel Payload.IsIdentificationOf p'.payload p.payload

/-- `t'` is the table `t` with all its identifiers. -/
structure Table.IsIdentificationOf (t' t : Table) : Prop where
  /-- Nothing but identifiers is changed. -/
  eq : t' = { t with uuid := t'.uuid, partitions := t'.partitions }
  /-- The table has an identifier, and keeps one that was set. -/
  uuid_eq : ∃ id, t'.uuid = some (t.uuid.getD id)
  /-- Its partitions have theirs. -/
  partitions : List.Forall₂ (Partition.IsIdentificationOf t.type) t'.partitions t.partitions

/-! ## The walk through a table -/

lemma keepOr_eq (drawn : StateM ByteStream String) (uuid : Option String) (s : ByteStream) :
    ∃ id, ((keepOr drawn uuid).run s).1 = uuid.getD id := by
  rcases uuid with _ | id
  · exact ⟨_, rfl⟩
  · exact ⟨id, rfl⟩

lemma Filesystem.isIdentificationOf_identify (fs : Filesystem) (s : ByteStream) :
    (fs.identify.run s).1.IsIdentificationOf fs := by
  obtain ⟨id, hid⟩ :=
    keepOr_eq (if fs.type = .vfat then Identifier.drawSerial else Identifier.drawUuid) fs.uuid s
  exact ⟨id, by rw [← hid]; rfl⟩

lemma LogicalVolume.isIdentificationOf_identify (v : LogicalVolume) (s : ByteStream) :
    (v.identify.run s).1.IsIdentificationOf v :=
  ⟨rfl, v.payload.isIdentificationOf_identify s⟩

lemma VolumeGroup.isIdentificationOf_identify (g : VolumeGroup) (s : ByteStream) :
    (g.identify.run s).1.IsIdentificationOf g := by
  obtain ⟨id, hid⟩ := keepOr_eq Identifier.drawUuid g.uuid s
  refine ⟨rfl, ⟨id, congrArg some hid⟩, ?_⟩
  exact forall₂_run_mapM LogicalVolume.isIdentificationOf_identify g.logicalVolumes _

lemma BtrfsVolume.isIdentificationOf_identify (v : BtrfsVolume) (s : ByteStream) :
    (v.identify.run s).1.IsIdentificationOf v := by
  obtain ⟨id, hid⟩ := keepOr_eq Identifier.drawUuid v.uuid s
  exact ⟨id, by rw [← hid]; rfl⟩

lemma Payload.isIdentificationOf_identify (payload : Payload) (s : ByteStream) :
    (payload.identify.run s).1.IsIdentificationOf payload := by
  cases payload with
  | filesystem fs => exact .filesystem (fs.isIdentificationOf_identify s)
  | lvm group => exact .lvm (group.isIdentificationOf_identify s)
  | btrfs volume => exact .btrfs (volume.isIdentificationOf_identify s)

lemma Partition.isIdentificationOf_identify (type : TableType) (p : Partition) (s : ByteStream) :
    ((p.identify type).run s).1.IsIdentificationOf type p := by
  refine ⟨rfl, ?_, ?_⟩
  · cases type with
    | gpt =>
      obtain ⟨id, hid⟩ := keepOr_eq Identifier.drawUuid p.uuid s
      exact ⟨id, congrArg some hid⟩
    | dos => exact ⟨"", rfl⟩
  · show Option.Rel _ (((p.payload.mapM Payload.identify).run _).1) p.payload
    rcases p.payload with _ | payload
    · exact .none
    · exact .some (payload.isIdentificationOf_identify _)

/-- **Identification fills in identifiers only.**  It keeps all that is set, identifiers included,
and afterwards none is missing. -/
lemma Table.isIdentificationOf_identify (t : Table) (s : ByteStream) :
    (t.identify.run s).1.IsIdentificationOf t := by
  obtain ⟨id, hid⟩ := keepOr_eq Identifier.drawUuid t.uuid s
  refine ⟨rfl, ⟨id, congrArg some hid⟩, ?_⟩
  exact forall₂_run_mapM (Partition.isIdentificationOf_identify t.type) t.partitions _

/-! ## What is kept -/

lemma Table.IsIdentificationOf.type_eq {t' t : Table} (h : t'.IsIdentificationOf t) :
    t'.type = t.type := by
  rw [h.eq]

lemma Partition.IsIdentificationOf.size_eq {type : TableType} {p' p : Partition}
    (h : p'.IsIdentificationOf type p) : p'.size = p.size := by
  rw [h.eq]

/-- A partition holds nothing before and after, or a payload and that payload identified. -/
lemma Partition.IsIdentificationOf.payload_cases {type : TableType} {p' p : Partition}
    (h : p'.IsIdentificationOf type p) : (p'.payload = none ∧ p.payload = none)
      ∨ ∃ payload' payload, p'.payload = some payload' ∧ p.payload = some payload
        ∧ payload'.IsIdentificationOf payload := by
  have hpayload := h.payload
  generalize p'.payload = payload' at hpayload
  generalize p.payload = payload at hpayload
  cases hpayload with
  | none => exact .inl ⟨rfl, rfl⟩
  | some hsome => exact .inr ⟨_, _, rfl, rfl, hsome⟩

end DiskPlan
