import DiskPlan.Proofs.Growth.Room

/-!
# What a growth that fails leaves behind

Growing stops at the first mountable whose size is too large, and all that comes before it has been
grown by then.  So a growth that fails leaves a table that is grown up to the fault
(`Table.grownUntilFault`), and the table is the one before only when everything ahead of the fault
had room already (`Table.growFault_unchanged_iff`).  Charges that are too large are found before
anything grows.
-/
namespace DiskPlan

open Size (limit roundUp)

/-! ## The two ends of a growth -/

namespace Grown

variable {α : Type} {g : Grown α} {a : α}

lemma eq_done_of_toExcept (h : g.toExcept = .ok a) : g = done a := by
  rcases g with ⟨value, _ | fault⟩
  · obtain rfl := Except.ok.inj h
    rfl
  · cases h

lemma eq_of_toExcept_error {fault : PlanError} (hvalue : g.value = a)
    (h : g.toExcept = .error fault) : g = ⟨a, some fault⟩ := by
  rcases g with ⟨value, _ | fault'⟩
  · cases h
  · obtain rfl := Except.error.inj h
    rw [← hvalue]

end Grown

/-! ## Lists that are grown up to a fault -/

section Until

variable {α : Type} (fits : α → Prop) [DecidablePred fits] (grown halted : α → α)

/-- The values of a list, grown up to the first that does not fit; that one is halted, and all
behind it stay as they are. -/
def growUntil : List α → List α
  | [] => []
  | a :: as => if fits a then grown a :: growUntil as else halted a :: as

variable {fits grown halted}

lemma Grown.value_each_eq_growUntil {grow : α → Grown α}
    (hfits : ∀ a, fits a → grow a = done (grown a))
    (hhalted : ∀ a, ¬ fits a → ∃ fault, grow a = ⟨halted a, some fault⟩) (as : List α) :
    (each grow as).value = growUntil fits grown halted as := by
  induction as with
  | nil => rfl
  | cons a as ih =>
    rw [each, growUntil]
    by_cases ha : fits a
    · rw [if_pos ha, hfits a ha, ← ih]
      rfl
    · obtain ⟨fault, hfault⟩ := hhalted a ha
      rw [if_neg ha, hfault]

/-- A list is left as it was when that is true of all that is grown and of what is halted. -/
lemma growUntil_eq_self_iff {as : List α} :
    growUntil fits grown halted as = as ↔
      (∀ a ∈ as.takeWhile fits, grown a = a) ∧ ∀ a ∈ (as.dropWhile fits).head?, halted a = a := by
  induction as with
  | nil => simp [growUntil]
  | cons a as ih =>
    rw [growUntil]
    by_cases ha : fits a
    · rw [if_pos ha, List.cons.injEq, ih, List.takeWhile_cons_of_pos (by simpa using ha),
        List.dropWhile_cons_of_pos (by simpa using ha), List.forall_mem_cons, and_assoc]
    · rw [if_neg ha, List.takeWhile_cons_of_neg (by simpa using ha),
        List.dropWhile_cons_of_neg (by simpa using ha)]
      simp

/-- Growing relates each value to the one before it when all it can do to a value does so. -/
lemma forall₂_growUntil {R : α → α → Prop} (hgrown : ∀ a, R (grown a) a)
    (hhalted : ∀ a, R (halted a) a) (hrefl : ∀ a, R a a) (as : List α) :
    List.Forall₂ R (growUntil fits grown halted as) as := by
  induction as with
  | nil => exact .nil
  | cons a as ih =>
    rw [growUntil]
    split
    · exact .cons (hgrown a) ih
    · exact .cons (hhalted a) (List.forall₂_same.mpr fun a _ => hrefl a)

end Until

/-! ## Mountables that cannot grow -/

namespace LogicalVolume

/-- Whether the charge of a volume in whole extents fits on a disk. -/
def GrowthFits (sizes : PathMap Nat) (v : LogicalVolume) : Prop :=
  roundUp (v.charge sizes) VolumeGroup.extent < limit

instance (sizes : PathMap Nat) (v : LogicalVolume) : Decidable (v.GrowthFits sizes) :=
  inferInstanceAs (Decidable (_ < _))

variable {sizes : PathMap Nat} {v : LogicalVolume}

lemma growTo_eq_done (h : v.GrowthFits sizes) : v.growTo sizes = .done (v.grown sizes) :=
  Grown.eq_done_of_toExcept ((v.exact_growTo sizes).eq_ok h)

lemma growTo_eq_halted (h : ¬ v.GrowthFits sizes) :
    ∃ fault, v.growTo sizes = ⟨v, some fault⟩ := by
  obtain ⟨requested, hfault⟩ := (v.exact_growTo sizes).eq_overflow h
  rw [growTo] at hfault ⊢
  split at hfault
  · cases hfault
  · rw [Grown.toExcept_attempt] at hfault
    exact ⟨_, by rw [hfault]; rfl⟩

end LogicalVolume

/-- Whether all volumes of a group that come before the first that is too large have room. -/
def VolumeGroup.HasRoomBeforeFault (sizes : PathMap Nat) (g : VolumeGroup) : Prop :=
  ∀ v ∈ g.logicalVolumes.takeWhile (·.GrowthFits sizes), v.HasRoom sizes.amount

instance (sizes : PathMap Nat) (g : VolumeGroup) : Decidable (g.HasRoomBeforeFault sizes) :=
  inferInstanceAs (Decidable (∀ v ∈ List.takeWhile _ _, LogicalVolume.HasRoom _ v))

namespace Partition

instance (sizes : PathMap Nat) (p : Partition) : Decidable (p.GrowthFits sizes) :=
  match h : p.payload with
  | none => isTrue (by rw [GrowthFits, h]; trivial)
  | some (.filesystem _) => isTrue (by rw [GrowthFits, h]; trivial)
  | some (.lvm group) =>
    decidable_of_iff (∀ v ∈ group.logicalVolumes, v.GrowthFits sizes)
      (by rw [GrowthFits, h]; exact Iff.rfl)
  | some (.btrfs volume) =>
    decidable_of_iff (BtrfsVolume.chargeOf sizes volume.subvolumes < limit)
      (by rw [GrowthFits, h])

/-- What is left of a partition that cannot grow: the volumes of a group are grown up to the first
that is too large, and a btrfs volume is left alone. -/
def halted (sizes : PathMap Nat) (p : Partition) : Partition :=
  match p.payload with
  | some (.lvm group) =>
    let volumes := growUntil (·.GrowthFits sizes) (·.grown sizes) id group.logicalVolumes
    { p with payload := some (.lvm { group with logicalVolumes := volumes }) }
  | _ => p

/-- Whether all that comes before the fault on a partition that cannot grow has room. -/
def HasRoomBeforeFault (sizes : PathMap Nat) (p : Partition) : Prop :=
  match p.payload with
  | some (.lvm group) => group.HasRoomBeforeFault sizes
  | _ => True

instance (sizes : PathMap Nat) (p : Partition) : Decidable (p.HasRoomBeforeFault sizes) :=
  match h : p.payload with
  | none | some (.filesystem _) | some (.btrfs _) =>
    isTrue (by rw [HasRoomBeforeFault, h]; trivial)
  | some (.lvm group) =>
    decidable_of_iff (group.HasRoomBeforeFault sizes) (by rw [HasRoomBeforeFault, h])

variable {sizes : PathMap Nat} {p : Partition}

lemma growTo_eq_done (h : p.GrowthFits sizes) : p.growTo sizes = .done (p.grown sizes) :=
  Grown.eq_done_of_toExcept ((p.exact_growTo sizes).eq_ok h)

lemma growTo_eq_halted (h : ¬ p.GrowthFits sizes) :
    ∃ fault, p.growTo sizes = ⟨p.halted sizes, some fault⟩ := by
  obtain ⟨requested, hfault⟩ := (p.exact_growTo sizes).eq_overflow h
  refine ⟨_, Grown.eq_of_toExcept_error ?_ hfault⟩
  rw [growTo, halted]
  rw [GrowthFits] at h
  rcases hp : p.payload with _ | ⟨fs | group | volume⟩
  · simp [hp] at h
  · simp [hp] at h
  · dsimp only
    rw [Grown.value_map, Grown.value_each_eq_growUntil (fun v => LogicalVolume.growTo_eq_done)
      (fun v => LogicalVolume.growTo_eq_halted)]
    rfl
  · simp only [hp] at h
    have hneeds := BtrfsVolume.exact_addNeeds sizes 0 volume.subvolumes Size.limit_pos
    obtain ⟨requested, hoverflow⟩ := hneeds.eq_overflow (by rwa [Nat.zero_add])
    dsimp only
    rw [hoverflow]
    rfl

lemma halted_eq_self_iff : p.halted sizes = p ↔ p.HasRoomBeforeFault sizes := by
  rw [halted, HasRoomBeforeFault]
  rcases hp : p.payload with _ | ⟨fs | group | volume⟩
  · simp
  · simp
  · have hgroup : growUntil (·.GrowthFits sizes) (·.grown sizes) id group.logicalVolumes
        = group.logicalVolumes ↔ group.HasRoomBeforeFault sizes := by
      rw [growUntil_eq_self_iff, VolumeGroup.HasRoomBeforeFault]
      simp [LogicalVolume.grown_eq_self_iff]
    refine Iff.trans ?_ hgroup
    dsimp only
    constructor
    · intro h
      have hpayload := congrArg Partition.payload h
      rw [hp] at hpayload
      exact congrArg VolumeGroup.logicalVolumes
        (Payload.lvm.inj (Option.some.inj hpayload))
    · intro h
      rw [h, ← hp]
  · simp

end Partition

/-! ## Tables that cannot grow -/

namespace Table

/-- The table with its partitions grown up to the first fault. -/
def grownUntilFault (t : Table) (sizes : PathMap Nat) : Table :=
  { t with partitions :=
      growUntil (·.GrowthFits sizes) (·.grown sizes) (·.halted sizes) t.partitions }

/-- Whether all that comes before the first mountable that cannot grow has room. -/
def HasRoomBeforeFault (t : Table) (sizes : PathMap Nat) : Prop :=
  (∀ p ∈ t.partitions.takeWhile (·.GrowthFits sizes), p.HasRoom sizes.amount)
    ∧ ∀ p ∈ (t.partitions.dropWhile (·.GrowthFits sizes)).head?, p.HasRoomBeforeFault sizes

instance (t : Table) (sizes : PathMap Nat) : Decidable (t.HasRoomBeforeFault sizes) :=
  inferInstanceAs (Decidable (_ ∧ _))

lemma value_growMountpoints (t : Table) (sizes : PathMap Nat) :
    (t.growMountpoints sizes).value = t.grownUntilFault sizes := by
  rw [growMountpoints, Grown.value_map, grownUntilFault,
    Grown.value_each_eq_growUntil (fun p => Partition.growTo_eq_done)
      (fun p => Partition.growTo_eq_halted)]

lemma grownUntilFault_eq_self_iff {t : Table} {sizes : PathMap Nat} :
    t.grownUntilFault sizes = t ↔ t.HasRoomBeforeFault sizes := by
  have hpartitions : growUntil (·.GrowthFits sizes) (·.grown sizes) (·.halted sizes) t.partitions
      = t.partitions ↔ t.HasRoomBeforeFault sizes := by
    rw [growUntil_eq_self_iff, HasRoomBeforeFault]
    simp only [Partition.grown_eq_self_iff, Partition.halted_eq_self_iff]
  rw [← hpartitions, grownUntilFault]
  constructor
  · exact fun h => congrArg Table.partitions h
  · intro h
    rw [h]

lemma growDirectories_of_charges {t : Table} {required : PathMap Nat}
    (h : ∀ m, (t.chargesOf required).amount m < limit) :
    t.growDirectories required = t.growMountpoints (t.chargesOf required) := by
  rw [growDirectories, (t.exact_charges required).eq_ok h]

/-- Charges that are too large leave the table alone. -/
lemma growDirectories_of_not_charges {t : Table} {required : PathMap Nat}
    (h : ¬ ∀ m, (t.chargesOf required).amount m < limit) :
    ∃ fault, t.growDirectories required = ⟨t, some fault⟩ := by
  obtain ⟨requested, hfault⟩ := (t.exact_charges required).eq_overflow h
  exact ⟨_, by rw [growDirectories, hfault]⟩

/-- **A growth that fails keeps what it has grown.**  The table that it leaves is grown up to the
first mountable that is too large, so it is the table from before just when everything ahead of
that mountable had room.  Growing for directories leaves the table alone as well when a charge is
too large. -/
theorem growFault_unchanged_iff {t t' : Table} {sizes : PathMap Nat} {fault : PlanError} :
    (t.growMountpoints sizes = ⟨t', some fault⟩ →
        t' = t.grownUntilFault sizes ∧ (t' = t ↔ t.HasRoomBeforeFault sizes))
      ∧ (t.growDirectories sizes = ⟨t', some fault⟩ →
        (t' = t ∨ t' = t.grownUntilFault (t.chargesOf sizes))
          ∧ (t' = t ↔ (∃ m, limit ≤ (t.chargesOf sizes).amount m)
            ∨ t.HasRoomBeforeFault (t.chargesOf sizes))) := by
  have hmounts : ∀ sizes, t.growMountpoints sizes = ⟨t', some fault⟩ →
      t' = t.grownUntilFault sizes := by
    intro sizes h
    rw [← t.value_growMountpoints, h]
  refine ⟨fun h => ?_, fun h => ?_⟩
  · have ht' := hmounts sizes h
    exact ⟨ht', by rw [ht', grownUntilFault_eq_self_iff]⟩
  · by_cases hcharges : ∀ m, (t.chargesOf sizes).amount m < limit
    · -- the charges are there, so the fault is one of growing to them
      rw [growDirectories_of_charges hcharges] at h
      have ht' := hmounts _ h
      have hnone : ¬ ∃ m, limit ≤ (t.chargesOf sizes).amount m := by
        rintro ⟨m, hm⟩
        exact absurd (hcharges m) (Nat.not_lt.mpr hm)
      refine ⟨.inr ht', ?_⟩
      rw [ht', grownUntilFault_eq_self_iff, or_iff_right hnone]
    · -- the fault is in the charges, before anything grows
      obtain ⟨fault', hfault⟩ := growDirectories_of_not_charges hcharges
      rw [hfault] at h
      have ht' : t = t' := congrArg Grown.value h
      have hsome : ∃ m, limit ≤ (t.chargesOf sizes).amount m := by
        simpa using hcharges
      exact ⟨.inl ht'.symm, fun _ => .inl hsome, fun _ => ht'.symm⟩

/-- A volume with room stays as it is when a later one is too large. -/
theorem growFault_unchanged_of_room :
    ∃ (t t' : Table) (sizes : PathMap Nat) (fault : PlanError),
      sizes.entries = [("/a", 4194304), ("/b", 18446744073709551615)]
      ∧ t.growMountpoints sizes = ⟨t', some fault⟩ ∧ t.growDirectories sizes = ⟨t', some fault⟩
      ∧ t.HasRoomBeforeFault sizes ∧ t' = t := by
  refine ⟨{ type := .gpt
            partitions := [{ size := 1048576, type := "lvm", payload := some (.lvm
              { VolumeGroup.new "vg" with
                logicalVolumes :=
                  [{ name := "a", size := 4194304, payload := .mountedAt .xfs "/a" },
                    { name := "b", size := 4194304, payload := .mountedAt .xfs "/b" }] }) }] },
    _, .ofList [("/a", 4194304), ("/b", 18446744073709551615)], _, rfl, rfl, rfl, by decide, ?_⟩
  exact (growFault_unchanged_iff.1 rfl).2.mpr (by decide)

/-- A volume that can grow has grown when a later one is too large. -/
theorem exists_growFault_grown :
    ∃ (t t' : Table) (sizes : PathMap Nat) (fault : PlanError),
      t.growMountpoints sizes = ⟨t', some fault⟩ ∧ t.growDirectories sizes = ⟨t', some fault⟩
      ∧ t' ≠ t := by
  refine ⟨{ type := .gpt
            partitions := [{ size := 1048576, type := "lvm", payload := some (.lvm
              { VolumeGroup.new "vg" with
                logicalVolumes :=
                  [{ name := "a", size := 4194304, payload := .mountedAt .xfs "/a" },
                    { name := "b", size := 4194304, payload := .mountedAt .xfs "/b" }] }) }] },
    _, .ofList [("/a", 8388608), ("/b", 18446744073709551615)], _, rfl, rfl, by decide⟩

end Table
end DiskPlan
