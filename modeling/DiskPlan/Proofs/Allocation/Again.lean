import DiskPlan.Proofs.Mountpoints.Kept

/-!
# Allocating an allocated table again

An allocated table that is given places again keeps the order and the starts of its partitions, and
all their sizes but that of the last.  The last partition has given the footer away, so its size is
off the grain when the footer is.  Rounding it up again takes back what it gave, and the footer has
to be found anew: the table grows by one grain, which strict sizing refuses.  Where the footer is on
the grain, as on every table without one, the second allocation is the identity.
-/
namespace DiskPlan

open Size (limit roundUp)

/-! ## The root stays last -/

lemma rootLast_ne_nil {ps : List Partition} (h : ps ≠ []) : rootLast ps ≠ [] := by
  intro hnil
  exact h (List.perm_nil.mp (hnil ▸ (perm_rootLast ps).symm))

lemma rootLast_eq_self {ps : List Partition} (h : ∀ p ∈ ps.dropLast, p.mounts "/" = false) :
    rootLast ps = ps := by
  induction ps with
  | nil => rfl
  | cons p ps ih =>
    rw [rootLast]
    cases ps with
    | nil => simp [rootLast]
    | cons q qs =>
      rw [List.dropLast_cons_cons, List.forall_mem_cons] at h
      rw [h.1, if_neg (by simp), ih h.2]

lemma mounts_dropLast_rootLast {ps : List Partition} (h : ps.countP (·.mounts "/") ≤ 1) :
    ∀ p ∈ (rootLast ps).dropLast, p.mounts "/" = false := by
  intro p hp
  rw [rootLast_eq_filter h] at hp
  rw [List.countP_eq_length_filter] at h
  rcases hroots : ps.filter (·.mounts "/") with _ | ⟨root, roots⟩
  · rw [hroots, List.append_nil] at hp
    simpa using (List.mem_filter.mp (List.dropLast_subset _ hp)).2
  · -- there is one root, and it is what is dropped
    rw [hroots, List.length_cons] at h
    obtain rfl : roots = [] := List.length_eq_zero_iff.mp (by omega)
    rw [hroots, List.dropLast_concat] at hp
    simpa using (List.mem_filter.mp hp).2

lemma map_mounts_stretchLast_lay (start stop : Nat) (ps : List Partition) :
    ((stretchLast stop (lay start ps)).map (·.reportSize)).map (·.mounts "/")
      = ps.map (·.mounts "/") := by
  induction ps generalizing start with
  | nil => rfl
  | cons p ps ih =>
    rw [stretchLast_lay_cons, List.map_cons, List.map_cons, List.map_cons, ih]
    simp only [Partition.mounts, Partition.mountpoints_reportSize]
    rfl

/-! ## Partitions in their places -/

lemma BtrfsVolume.reportSize_reportSize (v : BtrfsVolume) (a b : Nat) :
    (v.reportSize a).reportSize b = v.reportSize b := by
  have hprimary : (v.reportSize a).primary? = v.primary? := by
    have hmountpoints := v.map_mountpoint_reportSize a
    have hfind : ∀ ss : List Subvolume, (ss.findIdx? fun s => s.mountpoint == "/")
        = (ss.map (·.mountpoint)).findIdx? (· == "/") := by
      intro ss
      rw [List.findIdx?_map]
      rfl
    rw [primary?, primary?, hfind, hfind, hmountpoints]
  rw [reportSize, hprimary, reportSize, reportSize]
  rcases v.primary? with _ | i
  · rfl
  · simp only [List.modify_modify_eq]
    rfl

namespace Partition

/-- The last size that is reported counts. -/
lemma reportSize_reportSize (p : Partition) (start size : Nat) :
    { p.reportSize with start, size : Partition }.reportSize =
      { p with start, size : Partition }.reportSize := by
  rcases hp : p.payload with _ | ⟨fs | group | volume⟩
  · simp [reportSize, hp]
  · simp [reportSize, hp]
  · simp [reportSize, hp]
  · simp [reportSize, hp, BtrfsVolume.reportSize_reportSize]

/-- A partition in its place takes its size on the grain. -/
lemma room_placed {p : Partition} {start size : Nat} (h : p.room ≤ size) :
    { p with start, size : Partition }.reportSize.room = roundUp size grain := by
  have hneed : { p with start, size : Partition }.need = p.need := rfl
  have hle := p.max_le_room
  have hneed_le : p.need ≤ size := by omega
  rw [room, size_reportSize, need_reportSize, hneed, Nat.max_eq_left hneed_le]

end Partition

section Again

variable {start stop : Nat} {ps : List Partition}

/-- What was laid out is laid out in the same way again, up to the same end or another one. -/
lemma stretchLast_lay_again (stop' : Nat) (h : start + roomOf ps ≤ stop) :
    (stretchLast stop' (lay start ((stretchLast stop (lay start ps)).map (·.reportSize)))).map
      (·.reportSize) = (stretchLast stop' (lay start ps)).map (·.reportSize) := by
  induction ps generalizing start with
  | nil => rfl
  | cons p ps ih =>
    rw [stretchLast_lay_cons, List.map_cons, stretchLast_lay_cons, stretchLast_lay_cons,
      List.map_cons, List.map_cons]
    cases ps with
    | nil => simp [lay, stretchLast, Partition.reportSize_reportSize]
    | cons q qs =>
      -- the first partition has its room, which is on the grain, so the rest starts where it did
      have hroom : { p with start, size := p.room : Partition }.reportSize.room = p.room := by
        rw [Partition.room_placed (Nat.le_refl _)]
        exact Size.roundUp_eq_self grain_pos p.grain_dvd_room
      have hrest : (stretchLast stop (lay (start + p.room) (q :: qs))).map (·.reportSize) ≠ [] := by
        rw [stretchLast_lay_cons, List.map_cons]
        exact List.cons_ne_nil _ _
      rw [roomOf_cons] at h
      rw [if_neg (List.cons_ne_nil q qs), if_neg hrest, if_neg (List.cons_ne_nil q qs), hroom,
        Partition.reportSize_reportSize, ih (by omega)]

/-- What was laid out needs its end on the grain. -/
lemma add_roomOf_again (hne : ps ≠ []) (hstart : grain ∣ start) (h : start + roomOf ps ≤ stop) :
    start + roomOf ((stretchLast stop (lay start ps)).map (·.reportSize)) = roundUp stop grain := by
  induction ps generalizing start with
  | nil => exact absurd rfl hne
  | cons p ps ih =>
    obtain ⟨hroom, hstop⟩ := first_granted h
    rw [stretchLast_lay_cons, List.map_cons, roomOf_cons, Partition.room_placed hroom]
    cases ps with
    | nil =>
      -- the last partition reaches from a start on the grain to the end, so both are rounded alike
      rw [if_pos rfl] at hstop
      rw [if_pos rfl, lay, stretchLast, List.map_nil, roomOf_nil, Nat.add_zero,
        Size.add_roundUp grain_pos hstart, Nat.add_sub_cancel' (by omega)]
    | cons q qs =>
      rw [if_neg (List.cons_ne_nil q qs), Size.roundUp_eq_self grain_pos p.grain_dvd_room,
        ← Nat.add_assoc]
      rw [roomOf_cons] at h
      exact ih (List.cons_ne_nil q qs) (Nat.dvd_add hstart p.grain_dvd_room) (by omega)

/-- An end that lies further on is felt by the last partition only. -/
lemma exists_stretchLast_lay_add (extra : Nat) (hne : ps ≠ []) (h : start + roomOf ps ≤ stop) :
    ∃ front last, stretchLast stop (lay start ps) = front ++ [last]
      ∧ stretchLast (stop + extra) (lay start ps)
        = front ++ [{ last with size := last.size + extra }] := by
  induction ps generalizing start with
  | nil => exact absurd rfl hne
  | cons p ps ih =>
    rw [roomOf_cons] at h
    cases ps with
    | nil =>
      refine ⟨[], { p with start, size := stop - start }, rfl, ?_⟩
      have hsize : stop + extra - start = stop - start + extra := by omega
      rw [stretchLast_lay_cons, if_pos rfl, hsize]
      rfl
    | cons q qs =>
      have hrest : start + p.room + roomOf (q :: qs) ≤ stop := by omega
      obtain ⟨front, last, hshort, hlong⟩ := ih (List.cons_ne_nil q qs) hrest
      refine ⟨{ p with start, size := p.room } :: front, last, ?_, ?_⟩
      · rw [stretchLast_lay_cons, if_neg (List.cons_ne_nil q qs), hshort, List.cons_append]
      · rw [stretchLast_lay_cons, if_neg (List.cons_ne_nil q qs), hlong, List.cons_append]

end Again

/-! ## The size of the second table -/

namespace Table

section Again

variable {t : Table} {minimum : Nat}

lemma partitions_instantiate (t : Table) : t.instantiate.partitions = t.partitions := rfl

lemma footer_laidOut (t : Table) (minimum : Nat) :
    (t.laidOut minimum).instantiate.footer = t.footer := by
  simp only [instantiate, footer, header, entrySpace, length_laidOut, type_laidOut,
    sectorSize_laidOut]

lemma firstStart_laidOut (t : Table) (minimum : Nat) :
    (t.laidOut minimum).instantiate.firstStart = t.firstStart := by
  simp only [instantiate, firstStart, header, entrySpace, length_laidOut, type_laidOut,
    sectorSize_laidOut]

lemma requestedSize_laidOut (t : Table) (minimum : Nat) :
    (t.laidOut minimum).instantiate.requestedSize 0 = t.settledSize minimum := by
  show roundUp (max 0 (t.laidOut minimum).size) grain = _
  rw [Nat.zero_max, size_laidOut]
  exact Size.roundUp_eq_self grain_pos (t.grain_dvd_settledSize minimum)

/-- A table that was allocated needs as much as it has, or one grain more. -/
lemma naturalSize_laidOut (hne : t.partitions ≠ []) :
    (t.laidOut minimum).instantiate.naturalSize =
      if grain ∣ t.footer then t.settledSize minimum else t.settledSize minimum + grain := by
  have hparts := t.parts_le_settledSize minimum
  have hfits := t.firstStart_add_roomOf_le minimum
  have hstart : grain ∣ t.firstStart := Size.dvd_roundUp _ _
  rw [naturalSize, footer_laidOut, firstStart_laidOut, partitions_instantiate, partitions_laidOut,
    add_roomOf_again (rootLast_ne_nil hne) hstart hfits]
  exact Size.roundUp_sub_add grain_pos (t.grain_dvd_settledSize minimum) (by omega)

/-- What is added to the size of a table is felt by the last partition only. -/
lemma exists_laidOut_add (minimum extra : Nat) (hne : t.partitions ≠ []) :
    ∃ front last, (t.laidOut minimum).partitions = front ++ [last]
      ∧ (stretchLast (t.settledSize minimum + extra - t.footer)
          (lay t.firstStart (rootLast t.partitions))).map (·.reportSize)
        = front ++ [{ last with size := last.size + extra }.reportSize] := by
  have hparts := t.parts_le_settledSize minimum
  have hfits := t.firstStart_add_roomOf_le minimum
  obtain ⟨front, last, hshort, hlong⟩ :=
    exists_stretchLast_lay_add extra (rootLast_ne_nil hne) hfits
  have hstop : t.settledSize minimum + extra - t.footer =
      t.settledSize minimum - t.footer + extra := by omega
  refine ⟨front.map (·.reportSize), last.reportSize, ?_, ?_⟩
  · rw [partitions_laidOut, hshort, List.map_append, List.map_singleton]
  · have hreport := last.reportSize_reportSize last.start (last.size + extra)
    rw [hstop, hlong, List.map_append, List.map_singleton, last.size_reportSize,
      last.start_reportSize]
    exact congrArg (fun p => front.map (·.reportSize) ++ [p]) hreport.symm

/-- An empty table never needs more than it has. -/
lemma naturalSize_laidOut_of_nil (hnil : t.partitions = []) :
    (t.laidOut minimum).instantiate.naturalSize ≤ t.settledSize minimum := by
  have hnil' : (t.laidOut minimum).partitions = [] := by
    rw [← List.length_eq_zero_iff, length_laidOut, hnil, List.length_nil]
  have hnatural : (t.laidOut minimum).instantiate.naturalSize = t.naturalSize := by
    rw [naturalSize, naturalSize, footer_laidOut, firstStart_laidOut, partitions_instantiate, hnil,
      hnil']
  rw [hnatural]
  exact Nat.le_max_left _ _

lemma rootLast_laidOut (hroot : t.partitions.countP (·.mounts "/") ≤ 1) :
    rootLast (t.laidOut minimum).partitions = (t.laidOut minimum).partitions := by
  apply rootLast_eq_self
  -- the layout keeps which partitions mount the root, and in the list it lays out only the last may
  have hmap := map_mounts_stretchLast_lay t.firstStart (t.settledSize minimum - t.footer)
    (rootLast t.partitions)
  rw [← partitions_laidOut] at hmap
  have hdropped : ∀ b ∈ ((t.laidOut minimum).partitions.map (·.mounts "/")).dropLast,
      b = false := by
    rw [hmap, ← List.map_dropLast, List.forall_mem_map]
    exact mounts_dropLast_rootLast hroot
  rw [← List.map_dropLast, List.forall_mem_map] at hdropped
  exact hdropped

lemma partitions_laidOut_laidOut (hroot : t.partitions.countP (·.mounts "/") ≤ 1) :
    ((t.laidOut minimum).instantiate.laidOut 0).partitions =
      (stretchLast ((t.laidOut minimum).instantiate.settledSize 0 - t.footer)
        (lay t.firstStart (rootLast t.partitions))).map (·.reportSize) := by
  have hfits := t.firstStart_add_roomOf_le minimum
  rw [partitions_laidOut (t.laidOut minimum).instantiate, footer_laidOut, firstStart_laidOut,
    partitions_instantiate, rootLast_laidOut hroot, partitions_laidOut t,
    stretchLast_lay_again _ hfits]

/-- The second layout is the first one, up to another end. -/
lemma laidOut_again {t' : Table} (ht' : t' = t.laidOut minimum)
    (hroot : t.partitions.countP (·.mounts "/") ≤ 1) :
    t'.instantiate.laidOut 0 = { t' with
      partitions := (stretchLast (t'.instantiate.settledSize 0 - t.footer)
        (lay t.firstStart (rootLast t.partitions))).map (·.reportSize)
      size := t'.instantiate.settledSize 0 } := by
  have hfinalized : t'.finalized = true := by rw [ht', laidOut]
  have hpartitions := @partitions_laidOut_laidOut t minimum hroot
  rw [← ht'] at hpartitions
  rw [laidOut_eq t'.instantiate 0, hpartitions, size_laidOut, instantiate, ← hfinalized]

/-- A table that needs no more than it has is allocated as it was. -/
lemma laidOut_again_eq_self {t' : Table} (ht' : t' = t.laidOut minimum)
    (hroot : t.partitions.countP (·.mounts "/") ≤ 1)
    (hsize : t'.instantiate.settledSize 0 = t.settledSize minimum) :
    t'.instantiate.laidOut 0 = t' := by
  have hsettled : t'.size = t.settledSize minimum := by rw [ht', size_laidOut]
  have hpartitions : t'.partitions = _ := ht' ▸ partitions_laidOut t minimum
  rw [laidOut_again ht' hroot, hsize, ← hpartitions, ← hsettled]

end Again

section Finished

variable {t t' : Table} {minimum : Nat}

lemma size_again (ht' : t' = t.laidOut minimum) : t'.size = t.settledSize minimum := by
  rw [ht', size_laidOut]

/-- Whether a finished table needs just the size that it has: it is empty, or its last partition
gave away whole grains. -/
def EndsOnGrain (t : Table) : Prop := t.partitions = [] ∨ grain ∣ t.footerSize

instance : Decidable t.EndsOnGrain := inferInstanceAs (Decidable (_ ∨ _))

/-- The footer of a finished table was computed exactly. -/
lemma endsOnGrain_laidOut (hs : isSectorSize t.sectorSize = true)
    (hfit : t.settledSize minimum < limit) (ht' : t' = t.laidOut minimum) :
    t'.EndsOnGrain ↔ t.partitions = [] ∨ grain ∣ t.footer := by
  have hparts := t.parts_le_settledSize minimum
  have hheader := t.header_le_firstStart
  have hfooter : t'.footerSize = t.footer := by
    rw [ht', footerSize_laidOut, footerSize_eq (sectorSize_pos hs) (by omega)]
  have hlength : t'.partitions.length = t.partitions.length := by rw [ht', length_laidOut]
  rw [EndsOnGrain, hfooter, ← List.length_eq_zero_iff, hlength, List.length_eq_zero_iff]

lemma naturalSize_again (hs : isSectorSize t.sectorSize = true)
    (hfit : t.settledSize minimum < limit) (ht' : t' = t.laidOut minimum) :
    (t'.EndsOnGrain → t'.instantiate.naturalSize ≤ t'.size)
      ∧ (¬ t'.EndsOnGrain → t'.instantiate.naturalSize = t'.size + grain) := by
  rw [endsOnGrain_laidOut hs hfit ht']
  have hsize := size_again ht'
  rw [hsize, ht']
  by_cases hnil : t.partitions = []
  · exact ⟨fun _ => naturalSize_laidOut_of_nil hnil, fun h => absurd (.inl hnil) h⟩
  · rw [naturalSize_laidOut hnil]
    constructor
    · rintro (h | hfooter)
      · exact absurd h hnil
      · exact Nat.le_of_eq (if_pos hfooter)
    · intro h
      rw [if_neg (fun hfooter => h (.inr hfooter))]

lemma requestedSize_again (ht' : t' = t.laidOut minimum) :
    t'.instantiate.requestedSize 0 = t'.size := by
  rw [ht', requestedSize_laidOut, size_laidOut]

lemma sectorSize_le_header (t : Table) : t.sectorSize ≤ t.header := by
  rw [header]
  split
  · exact Nat.le_refl _
  · exact Nat.le_add_right _ _

/-- A finished table holds its header, so it is not empty. -/
lemma size_pos_again (hs : isSectorSize t.sectorSize = true) (ht' : t' = t.laidOut minimum) :
    0 < t'.size := by
  have hsector := sectorSize_pos hs
  have hparts := t.parts_le_settledSize minimum
  have hheader := t.header_le_firstStart
  have hsize := size_again ht'
  have hle := t.sectorSize_le_header
  omega

/-- One grain more is felt by the last partition only. -/
lemma partitions_again {size : Nat} (ht' : t' = t.laidOut minimum) (hne : t'.partitions ≠ [])
    (hsize : size = t'.size + grain) :
    ∃ front last, t'.partitions = front ++ [last]
      ∧ (stretchLast (size - t.footer) (lay t.firstStart (rootLast t.partitions))).map
          (·.reportSize)
        = front ++ [{ last with size := last.size + grain }.reportSize] := by
  have hne' : t.partitions ≠ [] := by
    rw [← List.length_pos_iff] at hne ⊢
    rwa [ht', length_laidOut] at hne
  rw [hsize, ht', size_laidOut]
  exact exists_laidOut_add minimum grain hne'

end Finished

/-- **A finished table that is allocated again stays as it is, or grows by one grain.**  Where its
last partition gave away whole grains both modes give the same table.  Where it gave away a part of
one, the table needs one grain more: strict sizing refuses it, and growing adds the grain to the
last partition and to the table, while every other partition stays where it is. -/
theorem allocate_again {t t' : Table} {minimum : Nat} {mode : SizingMode}
    (hroot : t.partitions.countP (·.mounts "/") ≤ 1) (h : t.allocate minimum mode = .ok t') :
    (t'.EndsOnGrain → ∀ mode', t'.instantiate.allocate 0 mode' = .ok t')
      ∧ (¬ t'.EndsOnGrain → t'.size + grain < limit →
        t'.instantiate.allocate 0 .strict = .error (.geometry (t'.size + grain) t'.size)
        ∧ ∃ front last, t'.partitions = front ++ [last]
          ∧ t'.instantiate.allocate 0 .grow = .ok { t' with
              partitions := front ++ [{ last with size := last.size + grain }.reportSize]
              size := t'.size + grain })
      ∧ (¬ t'.EndsOnGrain → ¬ t'.size + grain < limit →
        ∀ mode', ∃ requested, t'.instantiate.allocate 0 mode' = .error (.overflow requested)) := by
  obtain ⟨-, hs, hfit, -, ht'⟩ := allocate_eq_ok_iff.mp h
  obtain ⟨hon, hoff⟩ := naturalSize_again hs hfit ht'
  have hrequested := requestedSize_again ht'
  have hpos := size_pos_again hs ht'
  have hsize := size_again ht'
  have hs' : isSectorSize t'.instantiate.sectorSize = true := by
    rw [ht', instantiate, sectorSize_laidOut]
    exact hs
  have hsettled : t'.instantiate.settledSize 0 = max t'.instantiate.naturalSize t'.size := by
    rw [settledSize, hrequested]
  refine ⟨fun hends mode' => ?_, fun hends hroom => ⟨?_, ?_⟩, fun hends hroom mode' => ?_⟩
  · -- no more is needed than there is, so nothing moves
    have hnatural := hon hends
    have hsame : t'.instantiate.settledSize 0 = t'.size := by omega
    rw [allocate_eq_ok_iff]
    refine ⟨rfl, hs', by omega, ?_, ?_⟩
    · rintro ⟨-, hlt, -⟩
      omega
    · exact (laidOut_again_eq_self ht' hroot (by omega)).symm
  · -- the table asks for the size that it has, which is positive and one grain too small
    have hnatural := hoff hends
    have hsmall : t'.instantiate.IsTooSmall 0 .strict := by
      refine ⟨?_, ?_, rfl⟩
      · omega
      · rw [hrequested, hnatural]
        exact Nat.lt_add_of_pos_right grain_pos
    have hfit' : t'.instantiate.settledSize 0 < limit := by omega
    rw [allocate, run_of_tooSmall rfl hs' hfit' hsmall, hnatural, Nat.zero_max]
    rfl
  · -- the table takes the grain, and so does its last partition
    have hnatural := hoff hends
    have hgrown : t'.instantiate.settledSize 0 = t'.size + grain := by omega
    have hne : t'.partitions ≠ [] := fun hnil => hends (.inl hnil)
    obtain ⟨front, last, hfront, hlast⟩ := partitions_again ht' hne hgrown
    refine ⟨front, last, hfront, ?_⟩
    rw [allocate_eq_ok_iff]
    refine ⟨rfl, hs', by omega, ?_, ?_⟩
    · rintro ⟨-, -, hmode⟩
      cases hmode
    · rw [laidOut_again ht' hroot, hlast, hgrown]
  · -- with the grain the table is larger than a disk can be
    have hnatural := hoff hends
    have hover : ¬ t'.instantiate.settledSize 0 < limit := by omega
    obtain ⟨requested, hr⟩ := run_of_overflow mode' rfl hs' hover
    refine ⟨requested, ?_⟩
    rw [allocate, hr]
    rfl

/-- A root that takes what is left takes it up to the end where there is no footer, and one grain
more in each growing allocation where there is one. -/
theorem allocate_again_of_root :
    (∀ mode', allocate { type := .dos, size := 3145728, partitions :=
          [{ start := 1048576, size := 2097152, type := "83",
             payload := some (.filesystem (.mountedAt .ext4 "/")) }] } 0 mode'
        = .ok { type := .dos, finalized := true, size := 3145728, partitions :=
          [{ start := 1048576, size := 2097152, type := "83",
             payload := some (.filesystem (.mountedAt .ext4 "/")) }] })
    ∧ ∃ t'' : Table, allocate { type := .gpt, size := 3145728, partitions :=
          [{ start := 1048576, size := 2080256, type := "a",
             payload := some (.filesystem (.mountedAt .ext4 "/")) }] } 0 .grow = .ok t''
        ∧ t''.partitions.map (·.size) = [3128832] ∧ t''.size = 4194304 := by
  have hdos : allocate { type := .dos, partitions :=
      [{ size := 1, type := "83", payload := some (.filesystem (.mountedAt .ext4 "/")) }] }
      3145728 .grow = .ok { type := .dos, finalized := true, size := 3145728, partitions :=
          [{ start := 1048576, size := 2097152, type := "83",
             payload := some (.filesystem (.mountedAt .ext4 "/")) }] } := rfl
  have hgpt : allocate { type := .gpt, partitions :=
      [{ size := 1, type := "a", payload := some (.filesystem (.mountedAt .ext4 "/")) }] }
      0 .strict = .ok { type := .gpt, finalized := true, size := 3145728, partitions :=
          [{ start := 1048576, size := 2080256, type := "a",
             payload := some (.filesystem (.mountedAt .ext4 "/")) }] } := rfl
  refine ⟨(allocate_again (by decide) hdos).1 (.inr (by decide)), ?_⟩
  obtain ⟨-, front, last, hlast, hgrown⟩ :=
    (allocate_again (by decide) hgpt).2.1 (by decide) (by decide)
  obtain ⟨rfl, rfl⟩ : front = [] ∧ last = _ := by
    simpa [List.singleton_eq_append_iff] using hlast
  exact ⟨_, hgrown, by decide, rfl⟩

/-- The root of a finished table gave the footer away, so the table does not fit into itself. -/
theorem exists_allocate_again_refused :
    ∃ t t' : Table, t.finalized = false ∧ t.partitions.countP (·.mounts "/") ≤ 1
      ∧ t.allocate 0 .grow = .ok t'
      ∧ t'.instantiate.allocate 0 .strict = .error (.geometry 4194304 3145728) := by
  refine ⟨{ type := .gpt, partitions :=
      [{ size := 1048576, type := "a", payload := some (.filesystem (.mountedAt .ext4 "/")) }] },
    { type := .gpt, finalized := true, size := 3145728, partitions :=
      [{ start := 1048576, size := 2080256, type := "a",
         payload := some (.filesystem (.mountedAt .ext4 "/")) }] }, rfl, by decide, rfl, ?_⟩
  decide

end Table
end DiskPlan
