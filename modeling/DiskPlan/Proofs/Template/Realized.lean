import DiskPlan.Proofs.Plan.Composition
import DiskPlan.Proofs.Template.Adapted

/-!
# What a build keeps of its template

The table of a build has every partition of its template once, and one more for each mountpoint that
is asked for and that the template lacks.  On the way to the finished table a partition is grown
twice, placed and identified.  Of what the template says of it, each of these steps changes sizes,
places and missing identifiers only.

The relation between a partition of the build and the one of the template is defined along the data,
down to logical volumes.  Growing is taken care of once, as a finished form of something grown is a
finished form of what it was before (`Partition.IsRealizationOf.of_grown`); placing and identifying
come last, and together they give the relation (`Partition.isRealizationOf_of_isPlacementOf`).  The
order of the partitions is that of the template with the additions behind, but for the first one with
the root, which comes last (`fromTemplate_preserves`).
-/
namespace DiskPlan

/-! ## Realizations -/

/-- `v'` is the logical volume `v`, perhaps larger, and the filesystem on it has its identifier. -/
structure LogicalVolume.IsRealizationOf (v' v : LogicalVolume) : Prop where
  eq : v' = { v with size := v'.size, payload := v'.payload }
  size_le : v.size ≤ v'.size
  payload : v'.payload.IsIdentificationOf v.payload

/-- `g'` is the volume group `g` with its identifier and its volumes realized. -/
structure VolumeGroup.IsRealizationOf (g' g : VolumeGroup) : Prop where
  eq : g' = { g with uuid := g'.uuid, logicalVolumes := g'.logicalVolumes }
  uuid_eq : ∃ id, g'.uuid = some (g.uuid.getD id)
  volumes : List.Forall₂ LogicalVolume.IsRealizationOf g'.logicalVolumes g.logicalVolumes

/-- `payload'` is `payload` on a partition of the given size. -/
inductive Payload.IsRealizationOf (size : Nat) : Payload → Payload → Prop where
  | filesystem {fs' fs : Filesystem} (h : fs'.IsIdentificationOf fs) :
    IsRealizationOf size (.filesystem fs') (.filesystem fs)
  | lvm {g' g : VolumeGroup} (h : g'.IsRealizationOf g) :
    IsRealizationOf size (.lvm g') (.lvm g)
  | btrfs {v' v : BtrfsVolume} (h : v'.IsIdentificationOf (v.reportSize size)) :
    IsRealizationOf size (.btrfs v') (.btrfs v)

/-- `p'` is the partition `p` of a table of the given kind in its place, perhaps larger, with its
identifiers.  Those that were set are kept, and in a DOS table a partition gets none. -/
structure Partition.IsRealizationOf (type : TableType) (p' p : Partition) : Prop where
  eq : p' = { p with start := p'.start, size := p'.size, uuid := p'.uuid, payload := p'.payload }
  size_le : p.size ≤ p'.size
  uuid_eq : ∃ id, p'.uuid = match type with
    | .gpt => some (p.uuid.getD id)
    | .dos => p.uuid
  payload : Option.Rel (Payload.IsRealizationOf p'.size) p'.payload p.payload

/-! ## Before growing -/

section Grown

variable {sizes : PathMap Nat}

lemma LogicalVolume.IsRealizationOf.of_grown {v' v : LogicalVolume}
    (h : v'.IsRealizationOf (v.grown sizes)) : v'.IsRealizationOf v :=
  ⟨h.eq, Nat.le_trans (Nat.le_max_left _ _) h.size_le, h.payload⟩

lemma VolumeGroup.IsRealizationOf.of_grown {g' g : VolumeGroup}
    (h : g'.IsRealizationOf { g with logicalVolumes := g.logicalVolumes.map (·.grown sizes) }) :
    g'.IsRealizationOf g :=
  ⟨h.eq, h.uuid_eq, (List.forall₂_map_right_iff.mp h.volumes).imp fun _ _ hv => hv.of_grown⟩

/-- A realization of a grown partition is one of the partition before that. -/
lemma Partition.IsRealizationOf.of_grown {type : TableType} {p' p : Partition}
    (h : p'.IsRealizationOf type (p.grown sizes)) : p'.IsRealizationOf type p := by
  obtain ⟨heq, hsize, huuid, hpayload⟩ := h
  rw [grown] at heq hsize huuid hpayload
  rcases hp : p.payload with _ | ⟨fs | group | volume⟩
  · simp only [hp] at heq hsize huuid
    exact ⟨heq, hsize, huuid, by simpa only [hp] using hpayload⟩
  · simp only [hp] at heq hsize huuid hpayload
    exact ⟨heq, Nat.le_trans (Nat.le_max_left _ _) hsize, huuid, by rwa [hp]⟩
  · simp only [hp] at heq hsize huuid hpayload
    refine ⟨heq, hsize, huuid, ?_⟩
    rw [hp]
    generalize p'.payload = payload' at hpayload ⊢
    cases hpayload with
    | some hsome =>
      cases hsome with
      | lvm hgroup => exact .some (.lvm hgroup.of_grown)
  · simp only [hp] at heq hsize huuid hpayload
    exact ⟨heq, Nat.le_trans (Nat.le_max_left _ _) hsize, huuid, by rwa [hp]⟩

end Grown

/-! ## Placing and identifying -/

lemma LogicalVolume.IsIdentificationOf.isRealizationOf {v' v : LogicalVolume}
    (h : v'.IsIdentificationOf v) : v'.IsRealizationOf v := by
  have hsize : v'.size = v.size := by rw [h.1]
  exact ⟨by rw [h.1], Nat.le_of_eq hsize.symm, h.2⟩

lemma VolumeGroup.IsIdentificationOf.isRealizationOf {g' g : VolumeGroup}
    (h : g'.IsIdentificationOf g) : g'.IsRealizationOf g :=
  ⟨h.eq, h.uuid_eq, h.volumes.imp fun _ _ hv => hv.isRealizationOf⟩

/-- What is on a partition in its place, identified, is realized: a btrfs volume reports the size of
the partition, and other payloads are not touched by placing. -/
lemma Payload.isRealizationOf_of_reportSize {payload' : Option Payload} {p : Partition}
    (h : Option.Rel Payload.IsIdentificationOf payload' p.reportSize.payload) :
    Option.Rel (Payload.IsRealizationOf p.size) payload' p.payload := by
  rw [Partition.reportSize] at h
  rcases hp : p.payload with _ | ⟨fs | group | volume⟩
  · simp only [hp] at h
    cases h
    exact .none
  · simp only [hp] at h
    cases h with
    | some hsome =>
      cases hsome with
      | filesystem hfs => exact .some (.filesystem hfs)
  · simp only [hp] at h
    cases h with
    | some hsome =>
      cases hsome with
      | lvm hgroup => exact .some (.lvm hgroup.isRealizationOf)
  · simp only [hp] at h
    cases h with
    | some hsome =>
      cases hsome with
      | btrfs hvolume => exact .some (.btrfs hvolume)

lemma Partition.isRealizationOf_of_isPlacementOf {type : TableType} {p' q p : Partition}
    (hid : p'.IsIdentificationOf type q) (hq : q.IsPlacementOf p) : p'.IsRealizationOf type p := by
  have hsize : p'.size = q.size := hid.size_eq
  -- placing a partition leaves all but its payload to be seen
  have hplaced : q = { p with start := q.start, size := q.size, payload := q.payload } := by
    obtain ⟨payload, hreport⟩ :=
      { p with start := q.start, size := q.size : Partition }.reportSize_eq
    rw [hq.eq.trans hreport]
  have huuid : q.uuid = p.uuid := by rw [hplaced]
  refine ⟨?_, ?_, ?_, ?_⟩
  · rw [hid.eq, hplaced]
  · rw [hsize]
    exact hq.declared_le
  · rw [← huuid]
    exact hid.uuid_eq
  · have hpayload := hid.payload
    rw [hq.eq] at hpayload
    rw [hsize]
    exact Payload.isRealizationOf_of_reportSize hpayload

/-! ## The first partition with the root -/

namespace Table

/-- A finished table has the partitions of its draft, as they are once they have grown. -/
lemma IsFinished.isRealizationOf_grown {t d : Table} {required : PathMap Nat} {minimum : Nat}
    (h : t.IsFinished d required minimum) :
    List.Forall₂ (fun p' p => p'.IsRealizationOf d.type (p.grown (d.chargesOf required)))
      t.partitions (rootLast d.partitions) := by
  have hplaced := isPlacementOf_laidOut h.fits
  rw [partitions_grown, rootLast_map (fun p => p.mounts_grown _ "/"), List.forall₂_map_right_iff]
    at hplaced
  refine forall₂_comp (fun p' q p hp hq => ?_) h.identified.partitions hplaced
  rw [type_laidOut] at hp
  exact Partition.isRealizationOf_of_isPlacementOf hp hq

/-- A finished table has the partitions of its draft. -/
lemma IsFinished.isRealizationOf {t d : Table} {required : PathMap Nat} {minimum : Nat}
    (h : t.IsFinished d required minimum) :
    List.Forall₂ (Partition.IsRealizationOf d.type) t.partitions (rootLast d.partitions) :=
  h.isRealizationOf_grown.imp fun _ _ hp => hp.of_grown

/-- Of a draft itself only the size, the identifier and the mark are changed. -/
lemma IsFinished.eq_and_uuid_eq {t d : Table} {required : PathMap Nat} {minimum : Nat}
    (h : t.IsFinished d required minimum) :
    t = { d with size := t.size, uuid := t.uuid, partitions := t.partitions, finalized := true }
      ∧ ∃ id, t.uuid = some (d.uuid.getD id) := by
  obtain ⟨hid, huuid, -⟩ := h.identified
  have hplaced := (d.grown required).laidOut_eq minimum
  -- the layout stays closed: only the fields that it changes count
  generalize (d.grown required).laidOut minimum = placed at hid huuid hplaced
  rw [hplaced] at hid huuid
  refine ⟨?_, huuid⟩
  rw [hid]
  rfl

end Table
end DiskPlan
