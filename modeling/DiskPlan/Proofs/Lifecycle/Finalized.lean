import DiskPlan.Proofs.Allocation.Layout
import DiskPlan.Proofs.Lifecycle.Operations

/-!
# Finalized tables

Allocation gives a valid layout, whose partitions are apart from each other, large enough for what
they hold, and end before the footer.  Operations that follow it can only extend that layout.  There
is no gap between partitions, and none before the footer, so no partition can be larger than it was
placed: an extension of the layout is valid just when it has kept the size of every partition and
what they hold still fits.

Of the operations that a finalized table admits, those that do not grow anything keep all that.
Growing refuses no finalized table, though, and so it can end with partitions that overlap
(`Table.finalized_valid_iff`).
-/
namespace DiskPlan

open Size (limit)

/-! ## Valid layouts -/

/-- The least size of what is on the partition is known, and not more than the partition has. -/
def Partition.HoldsPayload (p : Partition) : Prop :=
  ∃ least, p.payloadMinimum = .ok least ∧ least ≤ p.size

/-- The partitions of `t` can be used where they are. -/
structure Table.IsValidLayout (t : Table) : Prop where
  /-- They are in the order of the disk, and no two overlap. -/
  ordered : t.partitions.Pairwise fun p q => p.stop ≤ q.start
  /-- Each can hold what is on it. -/
  holdsPayload : ∀ p ∈ t.partitions, p.HoldsPayload
  /-- The last one ends before the footer. -/
  stop_le : ∀ p ∈ t.partitions.getLast?, p.stop + t.footerSize ≤ t.size

namespace Partition

lemma holdsPayload_iff (p : Partition) : p.HoldsPayload ↔ p.need < limit ∧ p.need ≤ p.size := by
  constructor
  · rintro ⟨least, hleast, hle⟩
    by_cases hfit : p.need < limit
    · rw [p.exact_payloadMinimum.eq_of_ok hleast] at hle
      exact ⟨hfit, hle⟩
    · obtain ⟨requested, herror⟩ := p.exact_payloadMinimum.eq_overflow hfit
      rw [hleast] at herror
      cases herror
  · rintro ⟨hfit, hle⟩
    exact ⟨p.need, p.exact_payloadMinimum.eq_ok hfit, hle⟩

lemma IsExtensionOf.size_eq_of_stop_le {q p : Partition} (h : q.IsExtensionOf p)
    (hle : q.stop ≤ p.stop) : q.size = p.size := by
  obtain ⟨hstart, hsize⟩ := h
  rw [stop, stop, hstart] at hle
  omega

lemma IsPlacementOf.holdsPayload {q p : Partition} (h : q.IsPlacementOf p) : q.HoldsPayload :=
  ⟨q.need, h.payloadMinimum_eq, h.need_le⟩

end Partition

/-! ## Identifiers take no room -/

lemma VolumeGroup.IsIdentificationOf.need_eq {g' g : VolumeGroup} (h : g'.IsIdentificationOf g) :
    g'.need = g.need := by
  have hsizes : g'.logicalVolumes.map (·.size) = g.logicalVolumes.map (·.size) :=
    map_eq_of_forall₂ (fun v' v hv => by rw [hv.1]) h.volumes
  have htotal := @Size.total_eq_of_map_eq _ (Size.roundUp · extent) _ _ _ _ hsizes
  exact congrArg (metadata + ·) htotal

lemma Payload.IsIdentificationOf.need_eq {payload' payload : Payload}
    (h : payload'.IsIdentificationOf payload) : payload'.need = payload.need := by
  cases h with
  | filesystem _ => rfl
  | lvm hgroup => exact hgroup.need_eq
  | btrfs _ => rfl

lemma Partition.IsIdentificationOf.need_eq {type : TableType} {p' p : Partition}
    (h : p'.IsIdentificationOf type p) : p'.need = p.need := by
  rw [need, need]
  rcases h.payload_cases with ⟨h', hp⟩ | ⟨payload', payload, h', hp, hpayload⟩
  · rw [h', hp]
  · rw [h', hp]
    exact hpayload.need_eq

lemma Partition.IsIdentificationOf.holdsPayload {type : TableType} {p' p : Partition}
    (h : p'.IsIdentificationOf type p) (hp : p.HoldsPayload) : p'.HoldsPayload := by
  rw [holdsPayload_iff] at hp ⊢
  rwa [h.need_eq, h.size_eq]

/-! ## Partitions without gaps -/

section Extended

variable {ps qs : List Partition} (h : List.Forall₂ Partition.IsExtensionOf qs ps)
include h

/-- Partitions that are apart after an extension have not become larger, as there was no gap. -/
lemma map_size_eq_of_ordered {start stop : Nat} (hps : BackToBack start ps)
    (hstop : ∀ p ∈ ps.getLast?, p.stop = stop)
    (hordered : qs.Pairwise fun p q => p.stop ≤ q.start) (hle : ∀ q ∈ qs.getLast?, q.stop ≤ stop) :
    qs.map (·.size) = ps.map (·.size) := by
  induction h generalizing start with
  | nil => rfl
  | @cons q p qs ps hqp hrest ih =>
    rw [List.map_cons, List.map_cons]
    -- the partition behind it, or else the end of the table, keeps each one from growing
    cases hrest with
    | nil =>
      have hqstop := Nat.le_trans (hle q rfl) (Nat.le_of_eq (hstop p rfl).symm)
      rw [hqp.size_eq_of_stop_le hqstop]
    | @cons q' p' _ _ hnext _ =>
      rw [List.getLast?_cons_cons] at hstop hle
      obtain ⟨hbehind, hordered⟩ := List.pairwise_cons.mp hordered
      have hqstop := hbehind q' List.mem_cons_self
      rw [hnext.1, hps.2.1] at hqstop
      rw [hqp.size_eq_of_stop_le hqstop, ih hps.2 hstop hordered hle]

lemma map_range_eq_of_map_size_eq (hsizes : qs.map (·.size) = ps.map (·.size)) :
    qs.map (fun q => (q.start, q.stop)) = ps.map fun p => (p.start, p.stop) := by
  induction h with
  | nil => rfl
  | @cons q p qs ps hqp hrest ih =>
    rw [List.map_cons, List.map_cons, List.cons.injEq] at hsizes
    rw [List.map_cons, List.map_cons, ih hsizes.2, Partition.stop, Partition.stop, hqp.1,
      hsizes.1]

end Extended

namespace Table

/-- **An extension of an allocated table is valid when it has not outgrown its places.** -/
lemma IsExtensionOf.isValidLayout_iff {t placed before : Table} {minimum : Nat}
    (h : t.IsExtensionOf placed) (hplaced : placed.IsSoundLayout before minimum) :
    t.IsValidLayout ↔ t.partitions.map (·.size) = placed.partitions.map (·.size)
      ∧ ∀ p ∈ t.partitions, p.HoldsPayload := by
  have hstop : ∀ p ∈ placed.partitions.getLast?, p.stop = placed.size - placed.footerSize := by
    intro p hp
    have := hplaced.stop_add_footerSize p hp
    omega
  constructor
  · intro hvalid
    refine ⟨map_size_eq_of_ordered h.partitions hplaced.backToBack hstop hvalid.ordered ?_,
      hvalid.holdsPayload⟩
    intro q hq
    have hle := hvalid.stop_le q hq
    rw [h.footerSize_eq, h.size_eq] at hle
    omega
  · rintro ⟨hsizes, hholds⟩
    have hranges := map_range_eq_of_map_size_eq h.partitions hsizes
    refine ⟨?_, hholds, ?_⟩
    · have hordered := hplaced.backToBack.ordered.2
      have hpairs : (placed.partitions.map fun p => (p.start, p.stop)).Pairwise
          fun a b => a.2 ≤ b.1 := List.pairwise_map.mpr hordered
      rw [← hranges] at hpairs
      exact List.pairwise_map.mp hpairs
    · intro q hq
      have hlast := congrArg List.getLast? hranges
      rw [List.getLast?_map, List.getLast?_map, Option.mem_def.mp hq] at hlast
      obtain ⟨p, hp, hpq⟩ := Option.map_eq_some_iff.mp hlast.symm
      have hqstop : q.stop = p.stop := (Prod.mk.inj hpq).2.symm
      rw [hqstop, h.footerSize_eq, h.size_eq]
      exact Nat.le_of_eq (hplaced.stop_add_footerSize p hp)

/-! ## Runs on a finalized table -/

/-- A finalized table that is not to grow can be identified, and is not placed again. -/
lemma apply_of_finalized {t : Table} {op : Operation} (hf : t.finalized = true)
    (hop : op ≠ .instantiate) (hgrows : op.grows = false) :
    op.apply t = t ∨ (op.apply t).IsIdentificationOf t := by
  cases op with
  | allocate minimum mode => exact .inl (by rw [Operation.apply, run_of_finalized hf])
  | growDirectories required => cases hgrows
  | growMountpoints sizes => cases hgrows
  | identify stream => exact .inr (t.isIdentificationOf_identify stream)
  | instantiate => exact absurd rfl hop

lemma run_of_finalized_of_not_grows {t : Table} {ops : List Operation} (hf : t.finalized = true)
    (hholds : ∀ p ∈ t.partitions, p.HoldsPayload) (hops : ∀ op ∈ ops, op ≠ .instantiate)
    (hgrows : ∀ op ∈ ops, op.grows = false) :
    (t.run ops).partitions.map (·.size) = t.partitions.map (·.size)
      ∧ ∀ p ∈ (t.run ops).partitions, p.HoldsPayload := by
  induction ops generalizing t with
  | nil => exact ⟨rfl, hholds⟩
  | cons op ops ih =>
    obtain ⟨hop, hops⟩ := List.forall_mem_cons.mp hops
    obtain ⟨hgrow, hgrows⟩ := List.forall_mem_cons.mp hgrows
    rw [run, List.foldl_cons, ← run]
    rcases apply_of_finalized hf hop hgrow with hsame | hidentified
    · rw [hsame]
      exact ih hf hholds hops hgrows
    · have hsizes : (op.apply t).partitions.map (·.size) = t.partitions.map (·.size) :=
        map_eq_of_forall₂ (fun _ _ hp => hp.size_eq) hidentified.partitions
      have hholds' := forall_mem_of_forall₂ (fun _ _ hp => hp.holdsPayload)
        hidentified.partitions hholds
      have hf' : (op.apply t).finalized = true := by
        rw [hidentified.isExtensionOf.finalized_eq, hf]
      rw [← hsizes]
      exact ih hf' hholds' hops hgrows

/-- **A finalized table is valid as long as it keeps to its places.**  It comes from the last
allocation that succeeded, and it is a valid layout just when every partition still has the size
that it was given there and what it holds still fits.  That is always so when nothing has been grown
since. -/
theorem finalized_valid_iff {t : Table} (ht : t.finalized = false) {ops : List Operation}
    (hf : (t.run ops).finalized = true) :
    ∃ before minimum mode rest placed, ops = before ++ .allocate minimum mode :: rest
      ∧ (t.run before).allocate minimum mode = .ok placed
      ∧ t.run ops = placed.run rest
      ∧ (∀ op ∈ rest, op ≠ .instantiate)
      ∧ ((t.run ops).IsValidLayout ↔
        (t.run ops).partitions.map (·.size) = placed.partitions.map (·.size)
          ∧ ∀ p ∈ (t.run ops).partitions, p.HoldsPayload)
      ∧ ((∀ op ∈ rest, op.grows = false) → (t.run ops).IsValidLayout) := by
  obtain ⟨before, minimum, mode, rest, placed, hops, hallocate, hrun, hextension, hrest⟩ :=
    exists_allocated_of_run ht hf
  obtain ⟨-, hs, hfit, -, hlaidOut⟩ := allocate_eq_ok_iff.mp hallocate
  have hsound : placed.IsSoundLayout (t.run before) minimum := by
    rw [hlaidOut]
    exact isSoundLayout_laidOut hs hfit
  have hiff := hextension.isValidLayout_iff hsound
  refine ⟨before, minimum, mode, rest, placed, hops, hallocate, hrun, hrest, hiff, fun hgrows => ?_⟩
  obtain ⟨declared, -, hplacements⟩ := hsound.placements
  have hholds : ∀ p ∈ placed.partitions, p.HoldsPayload :=
    forall_mem_left_of_forall₂ (fun _ _ hp => hp.holdsPayload) hplacements
  have hplaced : placed.finalized = true := by rw [hsound.eq]
  rw [hiff, hrun]
  exact run_of_finalized_of_not_grows hplaced hholds hrest hgrows

/-- A table that is placed, identified and refused to be placed again is valid. -/
theorem finalized_valid_of_identified :
    ∃ (t : Table) (ops : List Operation), t.finalized = false ∧ (t.run ops).finalized = true
      ∧ (t.run ops).partitions.map (fun p => (p.start, p.stop))
        = [(1048576, 6291456), (6291456, 9437184)]
      ∧ (t.run ops).IsValidLayout := by
  let t : Table :=
    { type := .dos
      partitions :=
        [{ size := 3145728, type := "83", payload := some (.filesystem (.mountedAt .ext4 "/")) },
          { size := 1048576, type := "8e", payload := some (.lvm
            { VolumeGroup.new "vg" with
              logicalVolumes :=
                [{ name := "a", size := 4194304, payload := .mountedAt .xfs "/a" }] }) }] }
  let ops : List Operation :=
    [.allocate 0 .grow, .identify (.counting 0), .allocate 20971520 .strict]
  have hf : (t.run ops).finalized = true := by decide
  obtain ⟨before, minimum, mode, rest, placed, hops, -, -, -, -, hvalid⟩ :=
    finalized_valid_iff (t := t) rfl hf
  refine ⟨t, ops, rfl, hf, by decide, hvalid fun op hop => ?_⟩
  have hall : ∀ op ∈ ops, op.grows = false := by decide
  exact hall op (by rw [hops]; simp [hop])

/-- A finalized table whose first partition grows into the second one. -/
theorem exists_finalized_overlapping :
    ∃ (t : Table) (ops : List Operation), t.finalized = false ∧ (t.run ops).finalized = true
      ∧ (t.run ops).partitions.map (fun p => (p.start, p.stop))
        = [(1048576, 3145728), (2097152, 3145728)]
      ∧ ¬ (t.run ops).IsValidLayout := by
  refine ⟨{ type := .dos
            partitions :=
              [{ size := 1048576, type := "83",
                  payload := some (.filesystem (.mountedAt .ext4 "/a")) },
                { size := 1048576, type := "83",
                  payload := some (.filesystem (.mountedAt .ext4 "/")) }] },
    [.allocate 0 .grow, .growMountpoints (.ofList [("/a", 2097152)])], rfl, rfl, by decide, ?_⟩
  intro hvalid
  exact absurd hvalid.ordered (by decide)

end Table
end DiskPlan
