import Mathlib.Data.List.Induction
import DiskPlan.Proofs.Growth.Faults

/-!
# Runs of operations

A table goes through operations in any order, each of which can fail.  A failed allocation leaves
the table as it was, and a failed growth leaves it grown up to the fault.

No operation but a successful allocation moves a partition or makes it smaller.  So a table that is
finalized in the end is the one that the last successful allocation gave, extended: its partitions
are where they were placed, in the same order, and each is as large as then or larger
(`Table.exists_allocated_of_run`).
-/
namespace DiskPlan

namespace Table

/-- An operation on a table, with what it is given. -/
inductive Operation where
  | allocate (minimum : Nat) (mode : SizingMode)
  | growDirectories (required : PathMap Nat)
  | growMountpoints (sizes : PathMap Nat)
  | identify (stream : ByteStream)
  | instantiate

/-- The table after an operation, whether that succeeds or fails. -/
def Operation.apply : Operation → Table → Table
  | .allocate minimum mode, t => ((allocateInPlace minimum mode).run.run t).2
  | .growDirectories required, t => (t.growDirectories required).value
  | .growMountpoints sizes, t => (t.growMountpoints sizes).value
  | .identify stream, t => (t.identify.run stream).1
  | .instantiate, t => t.instantiate

/-- Whether an operation is there to make partitions and volumes larger. -/
def Operation.grows : Operation → Bool
  | .growDirectories _ | .growMountpoints _ => true
  | _ => false

/-- The table after some operations, one after the other. -/
def run (ops : List Operation) (t : Table) : Table := ops.foldl (fun t op => op.apply t) t

lemma run_append (ops ops' : List Operation) (t : Table) :
    t.run (ops ++ ops') = (t.run ops).run ops' :=
  List.foldl_append

end Table

/-! ## Extensions -/

/-- `q` is the partition `p` where it was, and at least as large. -/
def Partition.IsExtensionOf (q p : Partition) : Prop := q.start = p.start ∧ p.size ≤ q.size

/-- `t'` is the table `t` with identifiers, and with partitions that have at least their sizes. -/
structure Table.IsExtensionOf (t' t : Table) : Prop where
  /-- Nothing but identifiers and partitions is changed. -/
  eq : t' = { t with uuid := t'.uuid, partitions := t'.partitions }
  /-- The partitions are where they were. -/
  partitions : List.Forall₂ Partition.IsExtensionOf t'.partitions t.partitions

namespace Partition

lemma IsExtensionOf.refl (p : Partition) : p.IsExtensionOf p := ⟨rfl, Nat.le_refl _⟩

lemma IsExtensionOf.trans {r q p : Partition} (h : r.IsExtensionOf q) (h' : q.IsExtensionOf p) :
    r.IsExtensionOf p :=
  ⟨h.1.trans h'.1, Nat.le_trans h'.2 h.2⟩

lemma isExtensionOf_grown (sizes : PathMap Nat) (p : Partition) :
    (p.grown sizes).IsExtensionOf p := by
  rw [grown]
  split
  · exact .refl p
  · exact ⟨rfl, Nat.le_max_left _ _⟩
  · exact ⟨rfl, Nat.le_refl _⟩
  · exact ⟨rfl, Nat.le_max_left _ _⟩

lemma isExtensionOf_halted (sizes : PathMap Nat) (p : Partition) :
    (p.halted sizes).IsExtensionOf p := by
  rw [halted]
  split
  · exact ⟨rfl, Nat.le_refl _⟩
  · exact .refl p

lemma IsIdentificationOf.isExtensionOf {type : TableType} {p' p : Partition}
    (h : p'.IsIdentificationOf type p) : p'.IsExtensionOf p := by
  rw [h.eq]
  exact ⟨rfl, Nat.le_refl _⟩

end Partition

namespace Table

lemma IsExtensionOf.refl (t : Table) : t.IsExtensionOf t :=
  ⟨rfl, List.forall₂_same.mpr fun p _ => .refl p⟩

lemma IsExtensionOf.trans {t'' t' t : Table} (h : t''.IsExtensionOf t')
    (h' : t'.IsExtensionOf t) : t''.IsExtensionOf t := by
  refine ⟨?_, forall₂_comp (fun _ _ _ hr hq => hr.trans hq) h.partitions h'.partitions⟩
  rw [h.eq, h'.eq]

lemma IsExtensionOf.finalized_eq {t' t : Table} (h : t'.IsExtensionOf t) :
    t'.finalized = t.finalized := by
  rw [h.eq]

lemma IsExtensionOf.size_eq {t' t : Table} (h : t'.IsExtensionOf t) : t'.size = t.size := by
  rw [h.eq]

/-- The reserved space stays the same, as no partition is added. -/
lemma IsExtensionOf.footerSize_eq {t' t : Table} (h : t'.IsExtensionOf t) :
    t'.footerSize = t.footerSize := by
  have hlength := h.partitions.length_eq
  rw [h.eq]
  simp only [footerSize, headerSize, entryArray, hlength]

/-! ## What operations extend -/

lemma isExtensionOf_grownUntilFault (t : Table) (sizes : PathMap Nat) :
    (t.grownUntilFault sizes).IsExtensionOf t :=
  ⟨rfl, forall₂_growUntil (Partition.isExtensionOf_grown sizes)
    (Partition.isExtensionOf_halted sizes) .refl t.partitions⟩

lemma isExtensionOf_growMountpoints (t : Table) (sizes : PathMap Nat) :
    (t.growMountpoints sizes).value.IsExtensionOf t := by
  rw [t.value_growMountpoints]
  exact t.isExtensionOf_grownUntilFault sizes

lemma isExtensionOf_growDirectories (t : Table) (required : PathMap Nat) :
    (t.growDirectories required).value.IsExtensionOf t := by
  rw [growDirectories]
  split
  · exact .refl t
  · exact t.isExtensionOf_growMountpoints _

lemma IsIdentificationOf.isExtensionOf {t' t : Table} (h : t'.IsIdentificationOf t) :
    t'.IsExtensionOf t :=
  ⟨h.eq, h.partitions.imp fun _ _ hp => hp.isExtensionOf⟩

/-- An operation places the partitions anew, or makes a copy that is not finalized, or extends the
table. -/
lemma apply_cases (op : Operation) (t : Table) :
    (∃ minimum mode, op = .allocate minimum mode ∧ t.allocate minimum mode = .ok (op.apply t))
      ∨ (op = .instantiate ∧ (op.apply t).finalized = false)
      ∨ (op.apply t).IsExtensionOf t := by
  cases op with
  | allocate minimum mode =>
    rcases hrun : (allocateInPlace minimum mode).run.run t with ⟨result, t'⟩
    rcases result with fault | ⟨⟩
    · -- a failed allocation has changed nothing
      have hsame := run_eq_self_of_error (congrArg Prod.fst hrun)
      exact .inr (.inr (by rw [Operation.apply, hsame]; exact .refl t))
    · refine .inl ⟨minimum, mode, rfl, ?_⟩
      rw [Table.allocate, Operation.apply, hrun]
      rfl
  | growDirectories required => exact .inr (.inr (t.isExtensionOf_growDirectories required))
  | growMountpoints sizes => exact .inr (.inr (t.isExtensionOf_growMountpoints sizes))
  | identify stream => exact .inr (.inr (t.isIdentificationOf_identify stream).isExtensionOf)
  | instantiate => exact .inr (.inl ⟨rfl, rfl⟩)

/-- **A finalized table is an extension of an allocated one.**  In a run that starts from a table
that is not finalized and ends with one that is, there is a last allocation that succeeded, and what
follows it has only extended the table. -/
lemma exists_allocated_of_run {t : Table} (ht : t.finalized = false) {ops : List Operation}
    (hf : (t.run ops).finalized = true) :
    ∃ before minimum mode rest placed, ops = before ++ .allocate minimum mode :: rest
      ∧ (t.run before).allocate minimum mode = .ok placed
      ∧ t.run ops = placed.run rest
      ∧ (t.run ops).IsExtensionOf placed
      ∧ ∀ op ∈ rest, op ≠ .instantiate := by
  induction ops using List.reverseRecOn with
  | nil => exact absurd hf (by rw [run, List.foldl_nil, ht]; decide)
  | append_singleton ops op ih =>
    have hlast : t.run (ops ++ [op]) = op.apply (t.run ops) := run_append ops [op] t
    rw [hlast] at hf ⊢
    rcases apply_cases op (t.run ops) with ⟨minimum, mode, rfl, hplaced⟩ | ⟨-, hcopy⟩ | hext
    · -- the last operation has placed the partitions itself
      exact ⟨ops, minimum, mode, [], _, rfl, hplaced, rfl, .refl _, by simp⟩
    · rw [hcopy] at hf
      cases hf
    · obtain ⟨before, minimum, mode, rest, placed, hops, hplaced, hrun, hextension, hrest⟩ :=
        ih (by rw [← hext.finalized_eq, hf])
      refine ⟨before, minimum, mode, rest ++ [op], placed, ?_, hplaced, ?_, hext.trans hextension,
        ?_⟩
      · rw [hops, List.append_assoc, List.cons_append]
      · rw [run_append, ← hrun]
        rfl
      · rw [List.forall_mem_append]
        refine ⟨hrest, fun op' hop' => ?_⟩
        obtain rfl := List.mem_singleton.mp hop'
        rintro rfl
        have hcopy : (t.run ops).instantiate.finalized = true := hf
        cases hcopy

end Table
end DiskPlan
