import DiskPlan.Proofs.Growth.Faults
import DiskPlan.Proofs.Growth.Owners

/-!
# Directory accounts

Growing a table for directories keeps exact accounts.  A directory that some mountpoint holds counts
at one mountpoint only, its owner, so where the mountpoints are distinct what is owed to all of them
together is what the held directories need (`total_owed`).  The growth succeeds when what is owed to
each mountable fits on a disk, and then every mountable has it and all else is as it was
(`Table.growDirectories_accounts`).

The owners do not change while a table grows, and a mountable that has what is owed to it does not
grow again: growing twice is growing once, also where it stops at a fault.
-/
namespace DiskPlan

open Size (limit roundUp)

/-! ## One account for each directory -/

section Owners

variable {mountpoints : List String}

lemma Path.exists_owner {dir m : String} (hm : m ∈ mountpoints) (h : holds m dir = true) :
    ∃ owner, IsOwner mountpoints dir owner := by
  obtain ⟨owner, howner⟩ := exists_deepest hm h
  exact ⟨owner, isOwner_of_deepest howner⟩

/-- An amount that counts for one of some distinct things at most counts once or not at all. -/
lemma Size.total_ite {α : Type} {as : List α} {P : α → Prop} [DecidablePred P] (amount : Nat)
    (hdistinct : as.Nodup) (hunique : ∀ a b, P a → P b → a = b) :
    total (fun a => if P a then amount else 0) as = if ∃ a ∈ as, P a then amount else 0 := by
  induction as with
  | nil => simp
  | cons a as ih =>
    obtain ⟨ha, has⟩ := List.nodup_cons.mp hdistinct
    rw [total_cons, ih has]
    by_cases hP : P a
    · have hnone : ¬ ∃ b ∈ as, P b := by
        rintro ⟨b, hb, hPb⟩
        rw [hunique a b hP hPb] at ha
        exact ha hb
      have hsome : ∃ b ∈ a :: as, P b := ⟨a, List.mem_cons_self, hP⟩
      rw [if_pos hP, if_neg hnone, if_pos hsome, Nat.add_zero]
    · rw [if_neg hP, Nat.zero_add]
      simp [hP]

lemma Size.total_add {α : Type} (size size' : α → Nat) (as : List α) :
    total (fun a => size a + size' a) as = total size as + total size' as := by
  induction as with
  | nil => rfl
  | cons a as ih =>
    simp only [total_cons, ih]
    omega

/-- **No directory is lost and none counts twice.**  What is owed to distinct mountpoints together
is what the directories need that one of them holds. -/
lemma total_owed {required : PathMap Nat} (hdistinct : mountpoints.Nodup)
    (habs : ∀ e ∈ required.entries, Path.isAbsolute e.1 = true) :
    Size.total (owed mountpoints required) mountpoints =
      ((required.entries.filter fun e => ∃ m ∈ mountpoints, Path.holds m e.1).map (·.2)).sum := by
  unfold owed
  generalize required.entries = needs at habs ⊢
  induction needs with
  | nil =>
    have hzero := Size.total_ite (P := fun _ : String => False) 0 hdistinct
      (fun _ _ h => absurd h id)
    simpa using hzero
  | cons e es ih =>
    obtain ⟨he, hes⟩ := List.forall_mem_cons.mp habs
    have hstep (P : String × Nat → Prop) [DecidablePred P] :
        (((e :: es).filter P).map (·.2)).sum =
          (if P e then e.2 else 0) + ((es.filter P).map (·.2)).sum := by
      by_cases hP : P e
      · rw [List.filter_cons_of_pos (by simpa using hP), List.map_cons, List.sum_cons, if_pos hP]
      · rw [List.filter_cons_of_neg (by simpa using hP), if_neg hP, Nat.zero_add]
    have hheld : (∃ m ∈ mountpoints, Path.IsOwner mountpoints e.1 m) ↔
        ∃ m ∈ mountpoints, Path.holds m e.1 = true := by
      constructor
      · rintro ⟨m, hm, howner⟩
        exact ⟨m, hm, howner.2.1⟩
      · rintro ⟨m, hm, hholds⟩
        obtain ⟨owner, howner⟩ := Path.exists_owner hm hholds
        exact ⟨owner, howner.1, howner⟩
    simp only [hstep]
    rw [Size.total_add, ih hes,
      Size.total_ite e.2 hdistinct fun m m' hm hm' => hm.unique he hm']
    simp only [hheld]

end Owners

/-! ## Mountables with what is owed to them -/

section Sizes

variable (need : String → Nat)

/-- `v'` is the volume `v` with whole extents for what is needed at its mountpoint. -/
inductive LogicalVolume.IsGrownFor : LogicalVolume → LogicalVolume → Prop where
  /-- A volume that is not mounted stays as it is. -/
  | unmounted {v : LogicalVolume} (h : v.payload.mountpoint = none) : IsGrownFor v v
  /-- A mounted one has the extents, or its size if that is more. -/
  | mounted {v : LogicalVolume} {m : String} (h : v.payload.mountpoint = some m) :
    IsGrownFor { v with size := max v.size (roundUp (need m) VolumeGroup.extent) } v

/-- `p'` is the partition `p` with space for what is needed at the mountpoints on it. -/
inductive Partition.IsGrownFor : Partition → Partition → Prop where
  /-- A partition that holds nothing stays as it is. -/
  | raw {p : Partition} (h : p.payload = none) : IsGrownFor p p
  /-- So does a filesystem that is not mounted. -/
  | unmounted {p : Partition} {fs : Filesystem} (h : p.payload = some (.filesystem fs))
    (hfs : fs.mountpoint = none) : IsGrownFor p p
  /-- A mounted filesystem has the space on its partition. -/
  | mounted {p : Partition} {fs : Filesystem} {m : String} (h : p.payload = some (.filesystem fs))
    (hfs : fs.mountpoint = some m) : IsGrownFor { p with size := max p.size (need m) } p
  /-- In a volume group each volume has it. -/
  | lvm {p : Partition} {group : VolumeGroup} {volumes : List LogicalVolume}
    (h : p.payload = some (.lvm group))
    (hvolumes : List.Forall₂ (LogicalVolume.IsGrownFor need) volumes group.logicalVolumes) :
    IsGrownFor { p with payload := some (.lvm { group with logicalVolumes := volumes }) } p
  /-- The subvolumes of a btrfs volume have it side by side on their partition. -/
  | btrfs {p : Partition} {volume : BtrfsVolume} (h : p.payload = some (.btrfs volume)) :
    IsGrownFor { p with
      size := max p.size (Size.total (fun s => need s.mountpoint) volume.subvolumes) } p

/-- `t'` is the table `t` with space on each partition for what is needed at its mountpoints, and
nothing else changed. -/
structure Table.IsGrownFor (t' t : Table) : Prop where
  /-- Only partitions are changed. -/
  eq : t' = { t with partitions := t'.partitions }
  /-- Each of them has the space. -/
  partitions : List.Forall₂ (Partition.IsGrownFor need) t'.partitions t.partitions

/-- Whether the space that is needed at the mountpoints of a table is below the limit of a disk
everywhere. -/
structure Table.CanGrowFor (t : Table) : Prop where
  /-- It is at each mountpoint. -/
  mountpoints : ∀ m ∈ t.mountpoints, need m < limit
  /-- It is for each logical volume in whole extents. -/
  volumes : ∀ p ∈ t.partitions, ∀ group, p.payload = some (.lvm group) →
    ∀ v ∈ group.logicalVolumes, ∀ m, v.payload.mountpoint = some m →
      roundUp (need m) VolumeGroup.extent < limit
  /-- It is for the subvolumes of each btrfs volume together. -/
  subvolumes : ∀ p ∈ t.partitions, ∀ volume, p.payload = some (.btrfs volume) →
    Size.total (fun s => need s.mountpoint) volume.subvolumes < limit

end Sizes

section Grown

variable (sizes : PathMap Nat)

lemma LogicalVolume.isGrownFor_grown (v : LogicalVolume) :
    (v.grown sizes).IsGrownFor sizes.amount v := by
  have hzero : roundUp 0 VolumeGroup.extent = 0 := by decide
  rw [grown, charge]
  rcases hv : v.payload.mountpoint with _ | m
  · rw [Option.elim_none, hzero, Nat.max_zero]
    exact .unmounted hv
  · exact .mounted hv

lemma Partition.isGrownFor_grown (p : Partition) : (p.grown sizes).IsGrownFor sizes.amount p := by
  rw [grown]
  rcases hp : p.payload with _ | ⟨fs | group | volume⟩
  · exact .raw hp
  · dsimp only
    rcases hfs : fs.mountpoint with _ | m
    · have hkept : { p with size := max p.size 0 } = p := by rw [Nat.max_zero]
      rw [hp] at hkept
      rw [Option.elim_none, hkept]
      exact .unmounted hp hfs
    · have hmounted : IsGrownFor sizes.amount _ p := .mounted hp hfs
      rwa [hp] at hmounted
  · refine .lvm hp ?_
    rw [List.forall₂_map_left_iff]
    exact List.forall₂_same.mpr fun v _ => v.isGrownFor_grown sizes
  · have hgrown : IsGrownFor sizes.amount _ p := .btrfs hp
    rwa [hp] at hgrown

end Grown

/-! ## Growing twice -/

namespace Grown

variable {α : Type}

/-- Growing a list again does what growing it did, when that is true of its values. -/
lemma each_again {grow : α → Grown α} (h : ∀ a, grow (grow a).value = grow a) (as : List α) :
    each grow (each grow as).value = each grow as := by
  induction as with
  | nil => rfl
  | cons a as ih =>
    have ha := h a
    rw [each]
    rcases hgrow : grow a with ⟨value, _ | fault⟩
    · rw [hgrow] at ha
      rw [value_map, each, ha, ih]
    · rw [hgrow] at ha
      rw [each, ha]

/-- Raising a size to a least one again does nothing more, whether that can be computed or not. -/
lemma attempt_max_again {grow : α → Grown α} {f : Nat → α} {r : Except PlanError Nat}
    (h : ∀ size, grow (f size) = attempt (f size) (r.map fun least => f (max size least)))
    (size : Nat) : grow (grow (f size)).value = grow (f size) := by
  rw [h size]
  rcases r with fault | least
  · exact h size
  · refine (h (max size least)).trans ?_
    show done (f (max (max size least) least)) = done (f (max size least))
    rw [Nat.max_assoc, Nat.max_self]

end Grown

section Again

variable (sizes : PathMap Nat)

lemma LogicalVolume.growTo_again (v : LogicalVolume) :
    (v.growTo sizes).value.growTo sizes = v.growTo sizes := by
  rcases hleast : v.payload.mountpoint.bind sizes.get? with _ | least
  · have hsame : v.growTo sizes = .done v := by rw [growTo, hleast]
    rw [hsame]
    exact hsame
  · refine Grown.attempt_max_again (f := fun size => { v with size })
      (r := VolumeGroup.wholeExtents least) (fun size => ?_) v.size
    simp only [growTo, hleast]

lemma Partition.growTo_again (p : Partition) :
    (p.growTo sizes).value.growTo sizes = p.growTo sizes := by
  rcases hp : p.payload with _ | ⟨fs | group | volume⟩
  · have hsame : p.growTo sizes = .done p := by rw [growTo, hp]
    rw [hsame]
    exact hsame
  · rcases hleast : fs.mountpoint.bind sizes.get? with _ | least
    · have hsame : p.growTo sizes = .done p := by simp only [growTo, hp, hleast]
      rw [hsame]
      exact hsame
    · refine Grown.attempt_max_again (f := fun size => { p with size })
        (r := .ok least) (fun size => ?_) p.size
      simp only [growTo, hp, hleast]
      rfl
  · have hgrow (volumes : List LogicalVolume) :
        growTo sizes { p with payload := some (.lvm { group with logicalVolumes := volumes }) } =
          (Grown.each (·.growTo sizes) volumes).map fun volumes =>
            { p with payload := some (.lvm { group with logicalVolumes := volumes }) } := rfl
    have hself := hgrow group.logicalVolumes
    rw [← hp] at hself
    rw [hself, Grown.value_map, hgrow, Grown.each_again fun v => v.growTo_again sizes]
  · refine Grown.attempt_max_again (f := fun size => { p with size })
      (r := addNeeds sizes 0 volume.subvolumes) (fun size => ?_) p.size
    simp only [growTo, hp]

lemma Table.growMountpoints_again (t : Table) :
    (t.growMountpoints sizes).value.growMountpoints sizes = t.growMountpoints sizes := by
  have heach := Grown.each_again (fun p => p.growTo_again sizes) t.partitions
  have hpartitions : (t.growMountpoints sizes).value.partitions =
      (Grown.each (·.growTo sizes) t.partitions).value := rfl
  rw [growMountpoints, hpartitions, heach]
  rfl

/-- The charges are the same the second time, as the mountpoints are. -/
lemma Table.growDirectories_again (t : Table) (required : PathMap Nat) :
    (t.growDirectories required).value.growDirectories required = t.growDirectories required := by
  rcases hcharges : t.charges required with fault | charges
  · have hself : t.growDirectories required = ⟨t, some fault⟩ := by rw [growDirectories, hcharges]
    rw [hself]
    exact hself
  · have hself : t.growDirectories required = t.growMountpoints charges := by
      rw [growDirectories, hcharges]
    have hsame : (t.growMountpoints charges).value.charges required = t.charges required := by
      rw [Table.charges, Table.charges, map_mountpoint_mountables, map_mountpoint_mountables,
        mountpoints_growMountpoints]
    rw [hself, growDirectories, hsame, hcharges]
    exact t.growMountpoints_again charges

end Again

/-! ## The accounts of a table -/

namespace Table

variable {t : Table} {required : PathMap Nat}

/-- All that is computed to grow a table fits on a disk just when what is charged does. -/
lemma growthFits_iff : t.GrowthFits required ↔ t.CanGrowFor (t.chargesOf required).amount := by
  constructor
  · rintro ⟨hcharges, hpartitions⟩
    refine ⟨fun m _ => hcharges m, fun p hp group hgroup v hv m hm => ?_,
      fun p hp volume hvolume => ?_⟩
    · have hfits := hpartitions p hp
      rw [Partition.GrowthFits, hgroup] at hfits
      have hv := hfits v hv
      rwa [LogicalVolume.charge, hm] at hv
    · have hfits := hpartitions p hp
      rwa [Partition.GrowthFits, hvolume] at hfits
  · intro h
    refine ⟨fun m => ?_, fun p hp => ?_⟩
    · -- nothing but mountpoints is charged
      by_cases hzero : (t.chargesOf required).amount m = 0
      · rw [hzero]
        exact Size.limit_pos
      · exact h.mountpoints m (mem_of_chargeAll (fun j hj => absurd rfl hj) hzero)
    · rw [Partition.GrowthFits]
      rcases hpayload : p.payload with _ | ⟨fs | group | volume⟩
      · trivial
      · trivial
      · have hzero : roundUp 0 VolumeGroup.extent < limit := by decide
        intro v hv
        rw [LogicalVolume.charge]
        rcases hm : v.payload.mountpoint with _ | m
        · exact hzero
        · exact h.volumes p hp group hpayload v hv m hm
      · exact h.subvolumes p hp volume hpayload

lemma isGrownFor_grownTo (t : Table) (sizes : PathMap Nat) :
    (t.grownTo sizes).IsGrownFor sizes.amount t := by
  refine ⟨rfl, ?_⟩
  rw [grownTo, List.forall₂_map_left_iff]
  exact List.forall₂_same.mpr fun p _ => p.isGrownFor_grown sizes

/-- **Directories are accounted for exactly.**  A directory that some mountpoint holds has one
owner, and what is owed to all mountpoints together is what the held directories need.  Growing a
table for directories succeeds when what is owed can be given to each mountable on a disk, and then
each has it and nothing else is changed.  Growing again changes nothing. -/
theorem growDirectories_accounts (hdistinct : t.mountpoints.Nodup)
    (habs : ∀ e ∈ required.entries, Path.isAbsolute e.1 = true) :
    (∀ e ∈ required.entries, (∃ m ∈ t.mountpoints, Path.holds m e.1 = true) →
        ∃! m, Path.IsOwner t.mountpoints e.1 m)
      ∧ Size.total (owed t.mountpoints required) t.mountpoints =
        ((required.entries.filter fun e => ∃ m ∈ t.mountpoints, Path.holds m e.1).map (·.2)).sum
      ∧ ((t.growDirectories required).fault = none ↔
        t.CanGrowFor (owed t.mountpoints required))
      ∧ ((t.growDirectories required).fault = none →
        (t.growDirectories required).value.IsGrownFor (owed t.mountpoints required) t)
      ∧ (t.growDirectories required).value.growDirectories required =
        t.growDirectories required := by
  have hexact := t.exact_growDirectories required
  rw [growthFits_iff, t.amount_chargesOf habs] at hexact
  have hgrown : t.CanGrowFor (owed t.mountpoints required) →
      t.growDirectories required = .done (t.grown required) :=
    fun hfits => Grown.eq_done_of_toExcept (hexact.eq_ok hfits)
  have hfault : (t.growDirectories required).fault = none ↔
      t.CanGrowFor (owed t.mountpoints required) := by
    constructor
    · intro hnone
      by_contra hfits
      obtain ⟨requested, hoverflow⟩ := hexact.eq_overflow hfits
      rw [Grown.toExcept, hnone] at hoverflow
      cases hoverflow
    · intro hfits
      rw [hgrown hfits]
      rfl
  refine ⟨?_, total_owed hdistinct habs, hfault, ?_, t.growDirectories_again required⟩
  · rintro e he ⟨m, hm, hholds⟩
    obtain ⟨owner, howner⟩ := Path.exists_owner hm hholds
    exact ⟨owner, howner, fun other hother => hother.unique (habs e he) howner⟩
  · intro hnone
    rw [hgrown (hfault.mp hnone), ← t.amount_chargesOf habs]
    exact t.isGrownFor_grownTo _

/-- Below nested mountpoints each directory is charged to the deepest one, a volume has its charge
in whole extents, and subvolumes have theirs side by side. -/
theorem growDirectories_accounts_of_nested :
    ∃ (t : Table) (required : PathMap Nat),
      t.mountpoints = ["/", "/var", "/var/log", "/home", "/srv"]
      ∧ required.entries = [("/etc", 3), ("/home/a", 2097152), ("/srv", 1048576),
        ("/usr", 2097152), ("/var/log/a", 4194305), ("/variable", 5)]
      ∧ (t.growDirectories required).fault = none
      ∧ (t.growDirectories required).value.IsGrownFor (owed t.mountpoints required) t
      ∧ (t.growDirectories required).value.partitions.map (·.size) = [2097160, 1, 3145728]
      ∧ (t.growDirectories required).value.mountables.map (·.size) =
        [2097160, 4194304, 8388608, 3145728, 3145728] := by
  refine ⟨{ type := .gpt, partitions :=
      [{ size := 1048576, type := "a", payload := some (.filesystem (.mountedAt .ext4 "/")) },
        { size := 1, type := "b", payload := some (.lvm { VolumeGroup.new "vg" with
          logicalVolumes :=
            [{ name := "a", size := 4194304, payload := .mountedAt .xfs "/var" },
              { name := "b", size := 4194304, payload := .mountedAt .xfs "/var/log" }] }) },
        { size := 1048576, type := "c", payload := some (.btrfs { subvolumes :=
          [{ name := "home", mountpoint := "/home" },
            { name := "srv", mountpoint := "/srv" }] }) }] },
    .ofList [("/usr", 2097152), ("/etc", 3), ("/variable", 5), ("/var/log/a", 4194305),
      ("/home/a", 2097152), ("/srv", 1048576)], rfl, by decide, by decide, ?_, by decide, by decide⟩
  exact (growDirectories_accounts (by decide) (by decide)).2.2.2.1 (by decide)

end Table
end DiskPlan
