import DiskPlan.Proofs.Size.Exact
import DiskPlan.Table.Allocation

/-!
# Allocation in unbounded numbers

What allocation computes when no size is refused: the room that a partition takes, the size that a
table needs by itself and the one that is asked for, and the table with everything in its place
(`Table.laidOut`).  Allocation gives just that table whenever its size stays below the limit of a
disk, and otherwise it refuses without a change.
-/
namespace DiskPlan

open Size (limit roundUp Exact)

lemma grain_pos : 0 < grain := by decide

/-! ## What payloads need -/

namespace VolumeGroup

/-- The space of some volumes, each in whole extents. -/
def volumesNeed (vs : List LogicalVolume) : Nat := Size.total (fun v => roundUp v.size extent) vs

/-- The space that a group needs: its records and every volume in whole extents. -/
def need (g : VolumeGroup) : Nat := metadata + volumesNeed g.logicalVolumes

@[simp] lemma volumesNeed_cons (v : LogicalVolume) (vs : List LogicalVolume) :
    volumesNeed (v :: vs) = roundUp v.size extent + volumesNeed vs := rfl

lemma extent_pos : 0 < extent := by decide

lemma exact_wholeExtents (size : Nat) :
    Exact (wholeExtents size) (roundUp size extent < limit) (roundUp size extent) :=
  Size.exact_align size size extent_pos

lemma exact_addVolumes (needed : Nat) (vs : List LogicalVolume) (h : needed < limit) :
    Exact (addVolumes needed vs) (needed + volumesNeed vs < limit) (needed + volumesNeed vs) := by
  induction vs generalizing needed with
  | nil => exact .ok h
  | cons v vs ih =>
    -- each intermediate sum is a part of the whole one, so it fits when that does
    rw [volumesNeed_cons, ← Nat.add_assoc]
    refine (exact_wholeExtents v.size).bind (fun _ => ?_) (fun hfit => by omega)
    exact (Size.exact_sum needed _ v.size).bind (fun hsum => ih _ hsum) (fun hfit => by omega)

/-- What a volume takes is a part of what its group takes. -/
lemma size_le_volumesNeed {v : LogicalVolume} {vs : List LogicalVolume} (h : v ∈ vs) :
    v.size ≤ volumesNeed vs := by
  have hround := Size.le_roundUp v.size extent_pos
  have htotal := Size.le_total (fun v : LogicalVolume => roundUp v.size extent) h
  exact Nat.le_trans hround htotal

lemma exact_requiredSize (g : VolumeGroup) : Exact g.requiredSize (g.need < limit) g.need :=
  exact_addVolumes metadata g.logicalVolumes (by decide)

end VolumeGroup

namespace Payload

/-- The space that a payload needs. -/
def need : Payload → Nat
  | .lvm group => group.need
  | .filesystem _ | .btrfs _ => 0

lemma exact_minimumSize (payload : Payload) :
    Exact payload.minimumSize (payload.need < limit) payload.need := by
  cases payload with
  | lvm group => exact group.exact_requiredSize
  | filesystem fs => exact .ok Size.limit_pos
  | btrfs volume => exact .ok Size.limit_pos

end Payload

namespace Partition

/-- The space that the payload of a partition needs. -/
def need (p : Partition) : Nat := p.payload.elim 0 (·.need)

/-- The room that a partition takes at least: its size or what its payload needs, rounded up to the
grain. -/
def room (p : Partition) : Nat := roundUp (max p.size p.need) grain

lemma exact_payloadMinimum (p : Partition) : Exact p.payloadMinimum (p.need < limit) p.need := by
  rw [payloadMinimum, need]
  cases p.payload with
  | none => exact .ok Size.limit_pos
  | some payload => exact payload.exact_minimumSize

lemma max_le_room (p : Partition) : max p.size p.need ≤ p.room := Size.le_roundUp _ grain_pos

lemma exact_extent (p : Partition) : Exact p.extent (p.room < limit) p.room := by
  have hle := p.max_le_room
  refine p.exact_payloadMinimum.bind (fun _ => ?_) (fun h => by omega)
  exact Size.exact_align _ _ grain_pos

end Partition

/-! ## Placing partitions -/

/-- The room of some partitions together. -/
def roomOf (ps : List Partition) : Nat := Size.total (·.room) ps

@[simp] lemma roomOf_nil : roomOf [] = 0 := rfl

@[simp] lemma roomOf_cons (p : Partition) (ps : List Partition) :
    roomOf (p :: ps) = p.room + roomOf ps := rfl

/-- Partitions with the room that they take, back to back from `start` on. -/
def lay : Nat → List Partition → List Partition
  | _, [] => []
  | start, p :: ps => { p with start, size := p.room } :: lay (start + p.room) ps

lemma exact_place (wanted start : Nat) (ps : List Partition) (h : start < limit) :
    Exact (place wanted start ps) (start + roomOf ps < limit)
      (lay start ps, start + roomOf ps) := by
  induction ps generalizing start with
  | nil => exact .ok h
  | cons p ps ih =>
    rw [roomOf_cons, ← Nat.add_assoc]
    refine p.exact_extent.bind (fun _ => ?_) (fun hfit => by omega)
    refine (Size.exact_sum start p.room wanted).bind (fun hnext => ?_) (fun hfit => by omega)
    exact (ih (start + p.room) hnext).bind (fun hfit => .ok hfit) id

/-! ## The size of a table -/

namespace Table

/-- The space for the entries of a GPT in whole sectors. -/
def entrySpace (t : Table) : Nat :=
  roundUp (max t.partitions.length minimumEntries * entrySize) t.sectorSize

/-- The bytes kept at the start of the disk: a sector, and in a GPT the entries in whole sectors. -/
def header (t : Table) : Nat :=
  match t.type with
  | .dos => t.sectorSize
  | .gpt => t.sectorSize + t.entrySpace

/-- The bytes kept at the end of the disk: in a GPT, as many as at the start. -/
def footer (t : Table) : Nat :=
  match t.type with
  | .dos => 0
  | .gpt => t.header

/-- The first byte behind the header on the grain. -/
def firstStart (t : Table) : Nat := roundUp t.header grain

/-- The size that a table needs for its header, its partitions and its footer. -/
def naturalSize (t : Table) : Nat :=
  roundUp (t.firstStart + roomOf t.partitions + t.footer) grain

/-- The size that is asked for, on the grain. -/
def requestedSize (t : Table) (minimum : Nat) : Nat := roundUp (max minimum t.size) grain

/-- The size of a table in its place. -/
def settledSize (t : Table) (minimum : Nat) : Nat := max t.naturalSize (t.requestedSize minimum)

/-- The table with every partition in its place. -/
def laidOut (t : Table) (minimum : Nat) : Table :=
  let placed := lay t.firstStart (rootLast t.partitions)
  let stretched := stretchLast (t.settledSize minimum - t.footer) placed
  { t with
    partitions := stretched.map (·.reportSize)
    size := t.settledSize minimum
    finalized := true }

section Header

variable {t : Table}

lemma entryArray_eq (hs : 0 < t.sectorSize) (h : t.entrySpace < limit) :
    t.entryArray = t.entrySpace := by
  have hround := Size.alignUp?_eq_some_iff.mpr ⟨Nat.ne_of_gt hs, rfl, h⟩
  rw [entryArray, hround, Option.getD_some]
  rfl

/-- Where the entries cannot be rounded, they alone come within a sector of what they would take. -/
lemma entrySpace_lt (hs : 0 < t.sectorSize) : t.entrySpace < t.sectorSize + t.entryArray := by
  by_cases h : t.entrySpace < limit
  · rw [entryArray_eq hs h]
    omega
  · have hnone : Size.alignUp? (max t.partitions.length minimumEntries * entrySize) t.sectorSize
        = none := by
      rw [Option.eq_none_iff_forall_ne_some]
      intro n hn
      obtain ⟨-, rfl, hfit⟩ := Size.alignUp?_eq_some_iff.mp hn
      exact h hfit
    rw [entryArray, hnone, Option.getD_none, Nat.add_comm]
    exact Size.roundUp_lt _ hs

/-- The reserved space is computed exactly while it fits on a disk. -/
lemma headerSize_eq (hs : 0 < t.sectorSize) (h : t.header < limit) : t.headerSize = t.header := by
  rw [headerSize, header] at *
  cases ht : t.type with
  | dos => rfl
  | gpt =>
    simp only [ht] at h ⊢
    rw [entryArray_eq hs (by omega)]

/-- Reserved space that does not fit is never taken for less than the limit. -/
lemma limit_le_headerSize (hs : 0 < t.sectorSize) (h : limit ≤ t.header) :
    limit ≤ t.headerSize := by
  rw [headerSize, header] at *
  cases ht : t.type with
  | dos => simpa only [ht] using h
  | gpt =>
    simp only [ht] at h ⊢
    have hlt := entrySpace_lt hs
    by_cases hfit : t.entrySpace < limit
    · rwa [entryArray_eq hs hfit]
    · omega

lemma footerSize_eq (hs : 0 < t.sectorSize) (h : t.header < limit) : t.footerSize = t.footer := by
  rw [footerSize, footer]
  cases t.type with
  | dos => rfl
  | gpt => exact headerSize_eq hs h

lemma exact_firstStart (hs : 0 < t.sectorSize) (requested : Nat) :
    Exact (Size.align t.headerSize grain requested) (t.firstStart < limit) t.firstStart := by
  by_cases h : t.header < limit
  · rw [headerSize_eq hs h]
    exact Size.exact_align _ _ grain_pos
  · have hheader : t.header ≤ t.firstStart := Size.le_roundUp _ grain_pos
    have hsize : t.headerSize ≤ roundUp t.headerSize grain := Size.le_roundUp _ grain_pos
    have hlimit := limit_le_headerSize hs (Nat.le_of_not_lt h)
    have hexact := Size.exact_align t.headerSize requested grain_pos
    exact ⟨fun hfit => by omega, fun _ => hexact.eq_overflow (by omega)⟩

end Header

/-- The parts of a table are not larger than the whole. -/
lemma parts_le_settledSize (t : Table) (minimum : Nat) :
    t.firstStart + roomOf t.partitions + t.footer ≤ t.settledSize minimum :=
  Nat.le_trans (Size.le_roundUp _ grain_pos) (Nat.le_max_left _ _)

lemma room_le_settledSize {t : Table} {p : Partition} (h : p ∈ t.partitions) (minimum : Nat) :
    p.room ≤ t.settledSize minimum := by
  have hroom : p.room ≤ roomOf t.partitions := Size.le_total (·.room) h
  have hparts := t.parts_le_settledSize minimum
  omega

lemma header_le_firstStart (t : Table) : t.header ≤ t.firstStart := Size.le_roundUp _ grain_pos

lemma roomOf_rootLast (ps : List Partition) : roomOf (rootLast ps) = roomOf ps :=
  Size.total_perm (perm_rootLast ps)

/-! ## What allocation does -/

section Placement

variable {t : Table} {minimum : Nat} {mode : SizingMode}

/-- Whether a request is refused as too small. -/
def IsTooSmall (t : Table) (minimum : Nat) (mode : SizingMode) : Prop :=
  t.requestedSize minimum ≠ 0 ∧ t.requestedSize minimum < t.naturalSize ∧ mode = .strict

instance : Decidable (t.IsTooSmall minimum mode) := inferInstanceAs (Decidable (_ ∧ _ ∧ _))

/-- The byte behind the last partition when each takes its room. -/
def naturalStop (t : Table) : Nat := t.firstStart + roomOf (rootLast t.partitions)

lemma naturalSize_eq (hs : 0 < t.sectorSize) (h : t.firstStart < limit) :
    t.naturalSize = roundUp (t.naturalStop + t.footerSize) grain := by
  have hheader := t.header_le_firstStart
  rw [naturalSize, naturalStop, roomOf_rootLast, footerSize_eq hs (by omega)]

/-- A request that is too small is refused in strict mode, after both sizes have been computed. -/
lemma settleSize_eq (hs : 0 < t.sectorSize) (hfit : t.settledSize minimum < limit) :
    t.settleSize t.naturalStop (max minimum t.size) mode =
      if t.IsTooSmall minimum mode then .error (.geometry t.naturalSize (max minimum t.size))
      else .ok (t.settledSize minimum) := by
  have hmax : max t.naturalSize (t.requestedSize minimum) < limit := hfit
  have hle := t.parts_le_settledSize minimum
  have hnatural := naturalSize_eq hs (by omega)
  have hround := Size.le_roundUp (t.naturalStop + t.footerSize) grain_pos
  rw [← hnatural] at hround
  have hsum := Size.exact_sum t.naturalStop t.footerSize (max minimum t.size)
  have hnaturalSize :=
    Size.exact_align (t.naturalStop + t.footerSize) (max minimum t.size) grain_pos
  rw [← hnatural] at hnaturalSize
  have hrequested : Size.align (max minimum t.size) grain (max minimum t.size)
      = .ok (t.requestedSize minimum) :=
    (Size.exact_align _ _ grain_pos).eq_ok (show t.requestedSize minimum < limit by omega)
  rw [settleSize, hsum.eq_ok (by omega), ok_bind, hnaturalSize.eq_ok (by omega), ok_bind,
    hrequested, ok_bind]
  by_cases hsmall : t.IsTooSmall minimum mode
  · rw [if_pos hsmall]
    exact if_pos hsmall
  · rw [if_neg hsmall]
    exact if_neg hsmall

lemma settleSize_overflow (mode : SizingMode) (hs : 0 < t.sectorSize)
    (hstart : t.firstStart < limit) (hfit : ¬ t.settledSize minimum < limit) :
    ∃ requested, t.settleSize t.naturalStop (max minimum t.size) mode
      = .error (.overflow requested) := by
  have hmax : ¬ max t.naturalSize (t.requestedSize minimum) < limit := hfit
  have hsum := Size.exact_sum t.naturalStop t.footerSize (max minimum t.size)
  have hround :=
    Size.exact_align (t.naturalStop + t.footerSize) (max minimum t.size) grain_pos
  rw [← naturalSize_eq hs hstart] at hround
  rw [settleSize]
  by_cases hstop : t.naturalStop + t.footerSize < limit
  · rw [hsum.eq_ok hstop, ok_bind]
    by_cases hnatural : t.naturalSize < limit
    · rw [hround.eq_ok hnatural, ok_bind]
      obtain ⟨requested, hr⟩ :=
        (Size.exact_align (max minimum t.size) (max minimum t.size) grain_pos).eq_overflow
          (show ¬ t.requestedSize minimum < limit by omega)
      exact ⟨requested, by rw [hr, error_bind]⟩
    · obtain ⟨requested, hr⟩ := hround.eq_overflow hnatural
      exact ⟨requested, by rw [hr, error_bind]⟩
  · obtain ⟨requested, hr⟩ := hsum.eq_overflow hstop
    exact ⟨requested, by rw [hr, error_bind]⟩

lemma placement_eq (hs : 0 < t.sectorSize) (hfit : t.settledSize minimum < limit) :
    t.placement minimum mode =
      if t.IsTooSmall minimum mode then .error (.geometry t.naturalSize (max minimum t.size))
      else .ok (stretchLast (t.settledSize minimum - t.footer)
        (lay t.firstStart (rootLast t.partitions)), t.settledSize minimum) := by
  have hle := t.parts_le_settledSize minimum
  have hheader := t.header_le_firstStart
  have hroom := roomOf_rootLast t.partitions
  rw [placement]
  simp only
  rw [(exact_firstStart hs _).eq_ok (by omega), ok_bind,
    (exact_place _ _ _ (by omega)).eq_ok (by omega), ok_bind]
  simp only
  rw [← naturalStop, settleSize_eq hs hfit, ← footerSize_eq hs (by omega)]
  split <;> rfl

lemma placement_overflow (mode : SizingMode) (hs : 0 < t.sectorSize)
    (hfit : ¬ t.settledSize minimum < limit) :
    ∃ requested, t.placement minimum mode = .error (.overflow requested) := by
  rw [placement]
  simp only
  by_cases hstart : t.firstStart < limit
  · rw [(exact_firstStart hs _).eq_ok hstart, ok_bind]
    have hplace := exact_place (max minimum t.size) t.firstStart (rootLast t.partitions) hstart
    by_cases hstop : t.naturalStop < limit
    · rw [hplace.eq_ok hstop, ok_bind]
      obtain ⟨requested, hr⟩ := settleSize_overflow mode hs hstart hfit
      exact ⟨requested, by rw [naturalStop] at hr; simp only [hr, error_bind]⟩
    · obtain ⟨requested, hr⟩ := hplace.eq_overflow hstop
      exact ⟨requested, by rw [hr, error_bind]⟩
  · obtain ⟨requested, hr⟩ := (exact_firstStart hs (max minimum t.size)).eq_overflow hstart
    exact ⟨requested, by rw [hr, error_bind]⟩

end Placement

end Table
end DiskPlan
