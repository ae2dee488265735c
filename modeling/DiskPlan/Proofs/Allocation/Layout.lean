import DiskPlan.Proofs.Allocation.Outcome
import Mathlib.Data.List.Forall2

/-!
# The layout of an allocated table

An allocated table is a sound layout: its partitions lie back to back on the grain between the
header and the footer, none is smaller than it was declared or than what it holds, and all of them
end below the limit of a disk.

The size of the last partition is not chosen but left over, as what lies between its start and the
footer.  That it is large enough, and a whole number of sectors, follows from the settled size of
the table (`parts_le_settledSize`), of which the header, the footer and all the rooms are parts.
-/
namespace DiskPlan

open Size (limit roundUp)

/-- Partitions that lie back to back from `start` on. -/
def BackToBack : Nat → List Partition → Prop
  | _, [] => True
  | start, p :: ps => p.start = start ∧ BackToBack p.stop ps

lemma BackToBack.ordered {start : Nat} {ps : List Partition} (h : BackToBack start ps) :
    (∀ p ∈ ps, start ≤ p.start) ∧ ps.Pairwise fun p q => p.stop ≤ q.start := by
  induction ps generalizing start with
  | nil => simp
  | cons p ps ih =>
    obtain ⟨hstart, htail⟩ := h
    obtain ⟨hbehind, hordered⟩ := ih htail
    refine ⟨?_, List.pairwise_cons.mpr ⟨hbehind, hordered⟩⟩
    refine List.forall_mem_cons.mpr ⟨Nat.le_of_eq hstart.symm, fun q hq => ?_⟩
    have hq := hbehind q hq
    rw [Partition.stop] at hq
    omega

namespace Partition

/-- `q` is the partition `p` in its place, at least as large as `p` and as what it holds. -/
structure IsPlacementOf (q p : Partition) : Prop where
  /-- Nothing else of the partition is changed. -/
  eq : q = { p with start := q.start, size := q.size }.reportSize
  /-- It has the size that was declared. -/
  declared_le : p.size ≤ q.size
  /-- What it holds needs a size below the limit. -/
  payloadMinimum_eq : q.payloadMinimum = .ok q.need
  /-- It has room for what it holds. -/
  need_le : q.need ≤ q.size

/-! ## Reporting sizes -/

section ReportSize

variable (p : Partition)

/-- Only payloads are changed by the report of a size. -/
lemma reportSize_eq : ∃ payload, p.reportSize = { p with payload } := by
  rw [reportSize]
  split
  · exact ⟨_, rfl⟩
  · exact ⟨p.payload, rfl⟩

@[simp] lemma start_reportSize : p.reportSize.start = p.start := by
  obtain ⟨payload, h⟩ := p.reportSize_eq
  rw [h]

@[simp] lemma size_reportSize : p.reportSize.size = p.size := by
  obtain ⟨payload, h⟩ := p.reportSize_eq
  rw [h]

@[simp] lemma stop_reportSize : p.reportSize.stop = p.stop := by simp [stop]

/-- A btrfs volume needs no room of its own, whatever it reports. -/
@[simp] lemma need_reportSize : p.reportSize.need = p.need := by
  rw [reportSize]
  split
  · next volume h => simp [need, h, Payload.need]
  · rfl

end ReportSize

lemma IsPlacementOf.need_eq {q p : Partition} (h : IsPlacementOf q p) : q.need = p.need := by
  rw [h.eq, need_reportSize]
  rfl

lemma grain_dvd_room (p : Partition) : grain ∣ p.room := Size.dvd_roundUp _ grain

/-- A partition with its room has what it declares and what it holds. -/
lemma isPlacementOf_of_room_le {p : Partition} {start size : Nat} (h : p.room ≤ size)
    (hfit : size < limit) : IsPlacementOf { p with start, size }.reportSize p := by
  have hle := p.max_le_room
  have hneed : { p with start, size : Partition }.need = p.need := rfl
  refine ⟨by simp, ?_, ?_, ?_⟩
  · rw [size_reportSize]
    show p.size ≤ size
    omega
  · refine (exact_payloadMinimum _).eq_ok ?_
    rw [need_reportSize, hneed]
    omega
  · rw [need_reportSize, hneed, size_reportSize]
    show p.need ≤ size
    omega

end Partition

/-! ## The root comes last -/

/-- When the root is mounted once, all other partitions keep their order. -/
lemma rootLast_eq_filter {ps : List Partition} (h : ps.countP (·.mounts "/") ≤ 1) :
    rootLast ps = ps.filter (!·.mounts "/") ++ ps.filter (·.mounts "/") := by
  induction ps with
  | nil => rfl
  | cons p ps ih =>
    rw [rootLast]
    by_cases hp : p.mounts "/" = true
    · rw [List.countP_cons, if_pos hp] at h
      have hnone : ∀ q ∈ ps, ¬ q.mounts "/" = true := by
        rw [← List.countP_eq_zero]
        omega
      have hothers : ps.filter (!·.mounts "/") = ps := by
        rw [List.filter_eq_self]
        intro q hq
        simpa using hnone q hq
      rw [if_pos hp, List.filter_cons_of_neg (by simp [hp]),
        List.filter_cons_of_pos (by simp [hp]), hothers, List.filter_eq_nil_iff.mpr hnone]
    · rw [List.countP_cons, if_neg hp, Nat.add_zero] at h
      rw [if_neg hp, ih h, List.filter_cons_of_pos (by simp [hp]),
        List.filter_cons_of_neg (by simp [hp]), List.cons_append]

lemma rootLast_map {f : Partition → Partition} (hf : ∀ p, (f p).mounts "/" = p.mounts "/")
    (ps : List Partition) : rootLast (ps.map f) = (rootLast ps).map f := by
  induction ps with
  | nil => rfl
  | cons p ps ih =>
    rw [List.map_cons, rootLast, rootLast, hf p]
    split
    · rw [List.map_append, List.map_singleton]
    · rw [List.map_cons, ih]

lemma backToBack_map_reportSize {start : Nat} {ps : List Partition} (h : BackToBack start ps) :
    BackToBack start (ps.map (·.reportSize)) := by
  induction ps generalizing start with
  | nil => trivial
  | cons p ps ih =>
    obtain ⟨hstart, htail⟩ := h
    refine ⟨by rw [p.start_reportSize, hstart], ?_⟩
    rw [p.stop_reportSize]
    exact ih htail

lemma length_lay (start : Nat) (ps : List Partition) : (lay start ps).length = ps.length := by
  induction ps generalizing start with
  | nil => rfl
  | cons p ps ih => rw [lay, List.length_cons, ih, List.length_cons]

/-- All but the last partition take just their room. -/
lemma stretchLast_lay_cons (stop start : Nat) (p : Partition) (ps : List Partition) :
    stretchLast stop (lay start (p :: ps)) =
      { p with start, size := if ps = [] then stop - start else p.room }
        :: stretchLast stop (lay (start + p.room) ps) := by
  cases ps with
  | nil => rfl
  | cons q qs => rw [if_neg (List.cons_ne_nil q qs)]; rfl

section Stretched

variable {start stop : Nat} {ps : List Partition}

/-- The first partition is given at least its room, and stays within the whole. -/
lemma first_granted {p : Partition} (h : start + roomOf (p :: ps) ≤ stop) :
    p.room ≤ (if ps = [] then stop - start else p.room)
      ∧ start + (if ps = [] then stop - start else p.room) ≤ stop := by
  rw [roomOf_cons] at h
  split
  · omega
  · omega

lemma backToBack_stretchLast_lay : BackToBack start (stretchLast stop (lay start ps)) := by
  induction ps generalizing start with
  | nil => trivial
  | cons p ps ih =>
    rw [stretchLast_lay_cons]
    refine ⟨rfl, ?_⟩
    cases ps with
    | nil => trivial
    | cons q qs => exact ih

/-- Every partition is stretched to at least its room, and within the limits of the whole. -/
lemma isPlacementOf_stretchLast_lay (h : start + roomOf ps ≤ stop) (hfit : stop < limit) :
    List.Forall₂ Partition.IsPlacementOf ((stretchLast stop (lay start ps)).map (·.reportSize))
      ps := by
  induction ps generalizing start with
  | nil => exact .nil
  | cons p ps ih =>
    obtain ⟨hroom, hstop⟩ := first_granted h
    rw [roomOf_cons] at h
    rw [stretchLast_lay_cons, List.map_cons]
    exact .cons (Partition.isPlacementOf_of_room_le hroom (by omega)) (ih (by omega))

lemma grain_dvd_start (hstart : grain ∣ start) :
    ∀ q ∈ stretchLast stop (lay start ps), grain ∣ q.start := by
  induction ps generalizing start with
  | nil => simp [lay, stretchLast]
  | cons p ps ih =>
    rw [stretchLast_lay_cons]
    exact List.forall_mem_cons.mpr ⟨hstart, ih (Nat.dvd_add hstart p.grain_dvd_room)⟩

lemma stop_le (h : start + roomOf ps ≤ stop) :
    ∀ q ∈ stretchLast stop (lay start ps), q.stop ≤ stop := by
  induction ps generalizing start with
  | nil => simp [lay, stretchLast]
  | cons p ps ih =>
    obtain ⟨-, hstop⟩ := first_granted h
    rw [roomOf_cons] at h
    rw [stretchLast_lay_cons]
    exact List.forall_mem_cons.mpr ⟨hstop, ih (by omega)⟩

/-- What divides the grain and both ends divides every size. -/
lemma dvd_size {d : Nat} (hd : d ∣ grain) (hstart : grain ∣ start) (hstop : d ∣ stop) :
    ∀ q ∈ stretchLast stop (lay start ps), d ∣ q.size := by
  induction ps generalizing start with
  | nil => simp [lay, stretchLast]
  | cons p ps ih =>
    rw [stretchLast_lay_cons]
    refine List.forall_mem_cons.mpr ⟨?_, ih (Nat.dvd_add hstart p.grain_dvd_room)⟩
    show d ∣ if ps = [] then stop - start else p.room
    split
    · exact Nat.dvd_sub hstop (Nat.dvd_trans hd hstart)
    · exact Nat.dvd_trans hd p.grain_dvd_room

lemma stop_getLast? (h : start + roomOf ps ≤ stop) :
    ∀ q ∈ (stretchLast stop (lay start ps)).getLast?, q.stop = stop := by
  induction ps generalizing start with
  | nil => simp [lay, stretchLast]
  | cons p ps ih =>
    rw [stretchLast_lay_cons]
    rw [roomOf_cons] at h
    cases ps with
    | nil =>
      -- the difference that makes up the last size is not cut off at zero
      simp [lay, stretchLast, Partition.stop]
      omega
    | cons q qs =>
      rw [stretchLast_lay_cons, List.getLast?_cons_cons, ← stretchLast_lay_cons]
      exact ih (by omega)

/-- All but the last partition have just their room. -/
lemma map_size_dropLast_stretchLast_lay :
    (stretchLast stop (lay start ps)).dropLast.map (·.size) = ps.dropLast.map (·.room) := by
  induction ps generalizing start with
  | nil => simp [lay, stretchLast]
  | cons p ps ih =>
    rw [stretchLast_lay_cons]
    cases ps with
    | nil => simp [lay, stretchLast]
    | cons q qs =>
      have hrest : stretchLast stop (lay (start + p.room) (q :: qs)) ≠ [] := by
        rw [stretchLast_lay_cons]
        exact List.cons_ne_nil _ _
      rw [if_neg (List.cons_ne_nil q qs), List.dropLast_cons_of_ne_nil hrest,
        List.dropLast_cons_cons, List.map_cons, List.map_cons, ih]

end Stretched

/-! ## The allocated table -/

namespace Table

/-- `t'` lays out the partitions of `t` soundly, on at least `minimum` bytes. -/
structure IsSoundLayout (t' t : Table) (minimum : Nat) : Prop where
  /-- Nothing but the places and the size is changed. -/
  eq : t' = { t with partitions := t'.partitions, size := t'.size, finalized := true }
  /-- The partitions follow each other without gap and overlap, from the end of the header on. -/
  backToBack : BackToBack (roundUp t'.headerSize grain) t'.partitions
  /-- Each of them starts on the grain. -/
  grain_dvd_start : ∀ p ∈ t'.partitions, grain ∣ p.start
  /-- They are the declared partitions in some order, with the room that each needs. -/
  placements : ∃ declared : List Partition, declared.Perm t.partitions
    ∧ List.Forall₂ Partition.IsPlacementOf t'.partitions declared
  /-- Each of them is a whole number of sectors. -/
  sectorSize_dvd_size : ∀ p ∈ t'.partitions, t'.sectorSize ∣ p.size
  /-- The last one ends at the footer. -/
  stop_add_footerSize : ∀ p ∈ t'.partitions.getLast?, p.stop + t'.footerSize = t'.size
  /-- The size of the table is on the grain. -/
  grain_dvd_size : grain ∣ t'.size
  /-- The table is as large as is asked for. -/
  minimum_le : minimum ≤ t'.size
  /-- The table is not smaller than before. -/
  size_le : t.size ≤ t'.size
  /-- No partition reaches the limit of a disk. -/
  stop_lt : ∀ p ∈ t'.partitions, p.stop < limit

section Reserved

variable (t : Table) (minimum : Nat)

@[simp] lemma type_laidOut : (t.laidOut minimum).type = t.type := by rw [laidOut]

@[simp] lemma sectorSize_laidOut : (t.laidOut minimum).sectorSize = t.sectorSize := by
  rw [laidOut]

@[simp] lemma size_laidOut : (t.laidOut minimum).size = t.settledSize minimum := by
  rw [laidOut]

/-- Allocation changes the partitions, the size and the mark of a table only. -/
lemma laidOut_eq : t.laidOut minimum = { t with
    partitions := (t.laidOut minimum).partitions
    size := (t.laidOut minimum).size
    finalized := true } := by
  rw [laidOut]

lemma partitions_laidOut : (t.laidOut minimum).partitions =
    (stretchLast (t.settledSize minimum - t.footer)
      (lay t.firstStart (rootLast t.partitions))).map (·.reportSize) := by
  rw [laidOut]

@[simp] lemma length_laidOut : (t.laidOut minimum).partitions.length = t.partitions.length := by
  rw [partitions_laidOut, List.length_map, length_stretchLast, length_lay]
  exact (perm_rootLast t.partitions).length_eq

/-- The reserved space depends on the number of partitions only, not on their places. -/
@[simp] lemma headerSize_laidOut : (t.laidOut minimum).headerSize = t.headerSize := by
  simp only [headerSize, entryArray]
  rw [length_laidOut, type_laidOut, sectorSize_laidOut]

@[simp] lemma footerSize_laidOut : (t.laidOut minimum).footerSize = t.footerSize := by
  simp only [footerSize]
  rw [headerSize_laidOut, type_laidOut]

lemma sectorSize_dvd_header : t.sectorSize ∣ t.header := by
  rw [header]
  cases t.type with
  | dos => exact Nat.dvd_refl _
  | gpt => exact Nat.dvd_add (Nat.dvd_refl _) (Size.dvd_roundUp _ _)

lemma sectorSize_dvd_footer : t.sectorSize ∣ t.footer := by
  rw [footer]
  cases t.type with
  | dos => exact Nat.dvd_zero _
  | gpt => exact t.sectorSize_dvd_header

lemma grain_dvd_settledSize : grain ∣ t.settledSize minimum := by
  rw [settledSize]
  rcases Nat.le_total t.naturalSize (t.requestedSize minimum) with h | h
  · rw [Nat.max_eq_right h]
    exact Size.dvd_roundUp _ _
  · rw [Nat.max_eq_left h]
    exact Size.dvd_roundUp _ _

end Reserved

/-- What is left over for the last partition is at least its room. -/
lemma firstStart_add_roomOf_le (t : Table) (minimum : Nat) :
    t.firstStart + roomOf (rootLast t.partitions) ≤ t.settledSize minimum - t.footer := by
  have hparts := t.parts_le_settledSize minimum
  have hroom := roomOf_rootLast t.partitions
  omega

lemma isPlacementOf_laidOut {t : Table} {minimum : Nat} (hfit : t.settledSize minimum < limit) :
    List.Forall₂ Partition.IsPlacementOf (t.laidOut minimum).partitions
      (rootLast t.partitions) := by
  rw [partitions_laidOut]
  exact isPlacementOf_stretchLast_lay (t.firstStart_add_roomOf_le minimum) (by omega)

/-- Only the last partition is given more than its room. -/
lemma map_size_dropLast_laidOut (t : Table) (minimum : Nat) :
    (t.laidOut minimum).partitions.dropLast.map (·.size) =
      (rootLast t.partitions).dropLast.map (·.room) := by
  have hreport : (·.size) ∘ Partition.reportSize = (·.size) := funext Partition.size_reportSize
  rw [partitions_laidOut, ← List.map_dropLast, List.map_map, hreport,
    map_size_dropLast_stretchLast_lay]

/-- The exact layout is sound when it fits on a disk. -/
lemma isSoundLayout_laidOut {t : Table} {minimum : Nat}
    (hs : isSectorSize t.sectorSize = true) (hfit : t.settledSize minimum < limit) :
    IsSoundLayout (t.laidOut minimum) t minimum := by
  have hparts := t.parts_le_settledSize minimum
  have hheader : t.headerSize = t.header :=
    headerSize_eq (sectorSize_pos hs) (by have := t.header_le_firstStart; omega)
  have hfooter : t.footerSize = t.footer :=
    footerSize_eq (sectorSize_pos hs) (by have := t.header_le_firstStart; omega)
  have hgrain : grain ∣ t.firstStart := Size.dvd_roundUp _ _
  have hrequested : max minimum t.size ≤ t.settledSize minimum :=
    Nat.le_trans (Size.le_roundUp _ grain_pos) (Nat.le_max_right _ _)
  have hsector := sectorSize_dvd_grain hs
  -- the grain is a whole number of sectors, and so are the header and the footer
  have hend : t.sectorSize ∣ t.settledSize minimum - t.footer :=
    Nat.dvd_sub (Nat.dvd_trans hsector (t.grain_dvd_settledSize minimum)) t.sectorSize_dvd_footer
  have hstop := t.firstStart_add_roomOf_le minimum
  refine ⟨t.laidOut_eq minimum, ?_, ?_, ⟨rootLast t.partitions, perm_rootLast _, ?_⟩, ?_, ?_, ?_,
    ?_, ?_, ?_⟩
  · rw [headerSize_laidOut, hheader, partitions_laidOut]
    exact backToBack_map_reportSize backToBack_stretchLast_lay
  · rw [partitions_laidOut, List.forall_mem_map]
    intro q hq
    rw [Partition.start_reportSize]
    exact DiskPlan.grain_dvd_start hgrain q hq
  · exact isPlacementOf_laidOut hfit
  · rw [partitions_laidOut, sectorSize_laidOut, List.forall_mem_map]
    intro q hq
    rw [Partition.size_reportSize]
    exact dvd_size hsector hgrain hend q hq
  · rw [partitions_laidOut, footerSize_laidOut, size_laidOut, hfooter, List.getLast?_map]
    intro p hp
    obtain ⟨q, hq, rfl⟩ := Option.map_eq_some_iff.mp hp
    rw [Partition.stop_reportSize, stop_getLast? hstop q hq]
    omega
  · rw [size_laidOut]
    exact t.grain_dvd_settledSize minimum
  · rw [size_laidOut]
    omega
  · rw [size_laidOut]
    omega
  · rw [partitions_laidOut, List.forall_mem_map]
    intro q hq
    have hle := stop_le hstop q hq
    rw [Partition.stop_reportSize]
    omega

/-- **An allocated table is a sound layout.**  Whatever the table, the request and the mode, when
allocation succeeds its partitions lie back to back on the grain, large enough and in whole sectors,
and fill the table exactly up to the footer. -/
theorem allocate_sound {t t' : Table} {minimum : Nat} {mode : SizingMode}
    (h : t.allocate minimum mode = .ok t') : IsSoundLayout t' t minimum := by
  obtain ⟨-, hs, hfit, -, rfl⟩ := allocate_eq_ok_iff.mp h
  exact isSoundLayout_laidOut hs hfit

/-- A root that is declared first comes last and takes what is left. -/
theorem allocate_sound_of_root_first :
    ∃ t' : Table, allocate
        { type := .gpt
          partitions :=
            [{ size := 1, type := "a", payload := some (.filesystem (.mountedAt .ext4 "/")) },
              { size := 2097153, type := "b" }] }
        10485760 .strict = .ok t'
      ∧ t'.partitions.map (fun p => (p.start, p.size)) = [(1048576, 3145728), (4194304, 6274560)]
      ∧ IsSoundLayout t'
        { type := .gpt
          partitions :=
            [{ size := 1, type := "a", payload := some (.filesystem (.mountedAt .ext4 "/")) },
              { size := 2097153, type := "b" }] }
        10485760 := by
  refine ⟨_, rfl, by decide, ?_⟩
  exact allocate_sound (show allocate _ 10485760 .strict = _ from rfl)

end Table
end DiskPlan
