import DiskPlan.Proofs.Allocation.Again
import DiskPlan.Proofs.Allocation.Resized

/-!
# What a request changes

The size that is asked for, and whether it may be exceeded, settle the size of a table and nothing
else: the partitions in front of the last one are placed without them.  Two allocations of one table
are therefore compared by their settled sizes.  Strict sizing gives what growing gives or reports
the size that growing gives, and that size is always enough (`allocate_modes_agree`).  Asking for
more makes the table and its last partition larger by the same whole number of grains
(`allocate_more`).
-/
namespace DiskPlan

open Size (limit roundUp)

namespace Table

variable {t : Table} {minimum : Nat}

/-! ## The settled size -/

lemma settledSize_mono {m₁ m₂ : Nat} (h : m₁ ≤ m₂) : t.settledSize m₁ ≤ t.settledSize m₂ := by
  have hrequested : t.requestedSize m₁ ≤ t.requestedSize m₂ :=
    Size.roundUp_mono grain_pos (by omega)
  rw [settledSize, settledSize]
  omega

lemma le_requestedSize (t : Table) (minimum : Nat) :
    max minimum t.size ≤ t.requestedSize minimum :=
  Size.le_roundUp _ grain_pos

/-- A table that is asked to have just the size that it gets is asked for nothing new. -/
lemma requestedSize_settledSize (t : Table) (minimum : Nat) :
    t.requestedSize (t.settledSize minimum) = t.settledSize minimum := by
  have hrequested := t.le_requestedSize minimum
  have hsettled : t.requestedSize minimum ≤ t.settledSize minimum := Nat.le_max_right _ _
  have hmax : max (t.settledSize minimum) t.size = t.settledSize minimum := by omega
  rw [requestedSize, hmax]
  exact Size.roundUp_eq_self grain_pos (t.grain_dvd_settledSize minimum)

lemma settledSize_settledSize (t : Table) (minimum : Nat) :
    t.settledSize (t.settledSize minimum) = t.settledSize minimum := by
  rw [settledSize, requestedSize_settledSize]
  exact Nat.max_eq_right (Nat.le_max_left _ _)

/-- The layout depends on the request by the settled size only. -/
lemma laidOut_congr {m₁ m₂ : Nat} (h : t.settledSize m₁ = t.settledSize m₂) :
    t.laidOut m₁ = t.laidOut m₂ := by
  rw [laidOut, laidOut, h]

/-- The settled size is never too small a request. -/
lemma not_isTooSmall_settledSize (t : Table) (minimum : Nat) (mode : SizingMode) :
    ¬ t.IsTooSmall (t.settledSize minimum) mode := by
  rintro ⟨-, hlt, -⟩
  rw [requestedSize_settledSize] at hlt
  have hle : t.naturalSize ≤ t.settledSize minimum := Nat.le_max_left _ _
  omega

lemma not_isTooSmall_grow (t : Table) (minimum : Nat) : ¬ t.IsTooSmall minimum .grow := by
  rintro ⟨-, -, hmode⟩
  cases hmode

/-! ## Two modes -/

/-- **Strict sizing and growing agree.**  What strict sizing gives growing gives as well.  Where
growing gives a table and strict sizing does not, it reports the size of that table and the request,
which is smaller also on the grain; and when just the size of the table is asked for, strict sizing
gives the table. -/
theorem allocate_modes_agree (t : Table) (minimum : Nat) :
    (∀ t', t.allocate minimum .strict = .ok t' → t.allocate minimum .grow = .ok t')
      ∧ ∀ t', t.allocate minimum .grow = .ok t' →
        t.allocate t'.size .strict = .ok t'
        ∧ ∀ e, t.allocate minimum .strict = .error e →
          e = .geometry t'.size (max minimum t.size)
          ∧ roundUp (max minimum t.size) grain < t'.size := by
  refine ⟨fun t' hstrict => ?_, fun t' hgrow => ⟨?_, fun e hstrict => ?_⟩⟩
  · obtain ⟨hf, hs, hfit, -, ht'⟩ := allocate_eq_ok_iff.mp hstrict
    exact allocate_eq_ok_iff.mpr ⟨hf, hs, hfit, t.not_isTooSmall_grow minimum, ht'⟩
  · obtain ⟨hf, hs, hfit, -, rfl⟩ := allocate_eq_ok_iff.mp hgrow
    have hsettled := t.settledSize_settledSize minimum
    rw [size_laidOut, allocate_eq_ok_iff, hsettled]
    exact ⟨hf, hs, hfit, t.not_isTooSmall_settledSize minimum .strict, laidOut_congr hsettled.symm⟩
  · obtain ⟨hf, hs, hfit, -, rfl⟩ := allocate_eq_ok_iff.mp hgrow
    -- of all that can be refused only a request that is too small depends on the mode
    have hsmall : t.IsTooSmall minimum .strict := by
      by_contra hnot
      rw [allocate_eq_ok_iff.mpr ⟨hf, hs, hfit, hnot, rfl⟩] at hstrict
      cases hstrict
    have hlt := hsmall.2.1
    have hnatural : t.settledSize minimum = t.naturalSize := Nat.max_eq_left (Nat.le_of_lt hlt)
    rw [allocate, run_of_tooSmall hf hs hfit hsmall] at hstrict
    cases hstrict
    rw [size_laidOut, hnatural]
    exact ⟨rfl, hlt⟩

/-- A request of one byte is too small for a partition of two grains: three are required. -/
theorem allocate_modes_agree_of_one_byte :
    ∃ t t' : Table, t.partitions.map (·.size) = [2097152]
      ∧ t.allocate 1 .grow = .ok t'
      ∧ t.allocate 1 .strict = .error (.geometry 3145728 1)
      ∧ t.allocate 3145728 .strict = .ok t' := by
  have hgrow :
      allocate { type := .dos, partitions := [{ size := 2097152, type := "83" }] } 1 .grow =
        .ok { type := .dos, size := 3145728, finalized := true, partitions :=
          [{ start := 1048576, size := 2097152, type := "83" }] } := rfl
  exact ⟨_, _, rfl, hgrow, rfl, ((allocate_modes_agree _ 1).2 _ hgrow).1⟩

/-! ## Two requests -/

/-- **Asking for more makes the last partition larger and nothing else.**  When a table grows to
hold one request it grows to hold each smaller one.  Both tables have the same partitions up to the
last one, which starts at the same place; it and the table are larger for the larger request by the
same whole number of grains. -/
theorem allocate_more {t t₂ : Table} {m₁ m₂ : Nat} (hne : t.partitions ≠ []) (hle : m₁ ≤ m₂)
    (h : t.allocate m₂ .grow = .ok t₂) :
    ∃ t₁ front last₁ last₂ extra, t.allocate m₁ .grow = .ok t₁ ∧ grain ∣ extra
      ∧ t₁.partitions = front ++ [last₁] ∧ t₂.partitions = front ++ [last₂]
      ∧ last₂.start = last₁.start ∧ last₂.size = last₁.size + extra ∧ last₂.IsResizingOf last₁
      ∧ t₂ = { t₁ with partitions := front ++ [last₂], size := t₁.size + extra } := by
  obtain ⟨hf, hs, hfit, -, rfl⟩ := allocate_eq_ok_iff.mp h
  have hmono : t.settledSize m₁ ≤ t.settledSize m₂ := settledSize_mono hle
  obtain ⟨extra, hextra⟩ := Nat.exists_eq_add_of_le hmono
  have hgrain : grain ∣ extra := by
    have hdvd := Nat.dvd_sub (t.grain_dvd_settledSize m₂) (t.grain_dvd_settledSize m₁)
    rwa [hextra, Nat.add_sub_cancel_left] at hdvd
  obtain ⟨front, last, hfirst, hsecond⟩ := exists_laidOut_add m₁ extra hne
  rw [← hextra, ← partitions_laidOut t m₂] at hsecond
  have hsmaller : t.allocate m₁ .grow = .ok (t.laidOut m₁) :=
    allocate_eq_ok_iff.mpr ⟨hf, hs, by omega, t.not_isTooSmall_grow m₁, rfl⟩
  refine ⟨t.laidOut m₁, front, last, { last with size := last.size + extra }.reportSize, extra,
    hsmaller, hgrain, hfirst, hsecond, ?_, ?_, ?_, ?_⟩
  · rw [Partition.start_reportSize]
  · rw [Partition.size_reportSize]
  · exact Partition.isResizingOf_reportSize (Nat.le_add_right _ _) last.start
  · rw [← hsecond, size_laidOut, ← hextra, t.laidOut_eq m₂, t.laidOut_eq m₁, size_laidOut]

/-- Of two partitions the one with the root takes the eight grains more that are asked for, and its
subvolume reports them. -/
theorem allocate_more_of_root :
    ∃ t t₂ : Table, t.partitions.map (·.mountpoints) = [["/"], []]
      ∧ t.allocate 12582912 .grow = .ok t₂
      ∧ t₂.partitions.map (fun p => (p.start, p.size)) = [(1048576, 1048576), (2097152, 10485760)]
      ∧ ∃ t₁ front last₁ last₂ extra, t.allocate 4194304 .grow = .ok t₁ ∧ grain ∣ extra
        ∧ t₁.partitions = front ++ [last₁] ∧ t₂.partitions = front ++ [last₂]
        ∧ last₂.start = last₁.start ∧ last₂.size = last₁.size + extra ∧ last₂.IsResizingOf last₁
        ∧ t₂ = { t₁ with partitions := front ++ [last₂], size := t₁.size + extra } := by
  refine ⟨{ type := .dos, partitions :=
      [{ size := 1, type := "a", payload := some (.btrfs
          { subvolumes := [{ name := "root", mountpoint := "/" }] }) },
        { size := 1, type := "b" }] }, _, by decide, rfl, by decide, ?_⟩
  exact allocate_more (by decide) (by decide) (show allocate _ 12582912 .grow = _ from rfl)

end Table
end DiskPlan
