import DiskPlan.Proofs.Identification.Filled
import DiskPlan.Proofs.Volumes.Names
import Mathlib.Order.Bounds.Basic

/-!
# Volumes created one after the other

A new group is asked for one volume after the other, under given names or under names to be made up,
and some of them it refuses.  Whatever it is asked for, it holds the volumes that it did not refuse,
in the order in which they were created, and their names are distinct and not empty: a step adds one
volume with a name that is new, or it adds nothing (`Creation.run_cases`).

A name can always be made up in a group with up to a hundred volumes: a hundred and one names may be
made from one mountpoint.
-/
namespace DiskPlan

open Size (limit roundUp)

namespace VolumeGroup

/-! ## Texts of names -/

lemma nameFor_ne_empty (mountpoint : String) : nameFor mountpoint ≠ "" := by
  rw [nameFor]
  split
  · decide
  · simp

lemma slash_notMem_nameFor (mountpoint : String) : '/' ∉ (nameFor mountpoint).toList := by
  rw [nameFor]
  split
  · decide
  · intro h
    rw [String.toList_ofList, List.mem_append] at h
    rcases h with h | h
    · obtain ⟨c, -, hc⟩ := List.mem_map.mp h
      split at hc
      · cases hc
      · next hslash => exact hslash hc
    · exact absurd h (by decide)

lemma digitChar_ne_slash {i : Nat} (hi : i < 10) : Nat.digitChar i ≠ '/' := by
  have hall : ∀ i < 10, Nat.digitChar i ≠ '/' := by decide
  exact hall i hi

lemma numbered_ne_empty (base : String) (i : Nat) : numbered base i ≠ "" := by
  simp [numbered]

lemma slash_notMem_numbered {base : String} (h : '/' ∉ base.toList) (i : Nat) :
    '/' ∉ (numbered base i).toList := by
  have htens : Nat.digitChar (i / 10 % 10) ≠ '/' := digitChar_ne_slash (by omega)
  have hones : Nat.digitChar (i % 10) ≠ '/' := digitChar_ne_slash (by omega)
  simp [numbered, h, htens.symm, hones.symm]

/-- A name that is made up is free, and it has no slash in it. -/
lemma freeName_spec {g : VolumeGroup} {mountpoint name : String}
    (h : g.freeName mountpoint = .ok name) :
    name ∉ g.names ∧ name ≠ "" ∧ '/' ∉ name.toList := by
  unfold freeName at h
  dsimp only at h
  by_cases hbase : g.hasVolume (nameFor mountpoint) = true
  · rw [if_pos hbase] at h
    split at h
    · next found hfound =>
      obtain rfl := Except.ok.inj h
      obtain ⟨i, -, rfl⟩ := List.mem_map.mp (List.mem_of_find?_eq_some hfound)
      have hfree := List.find?_some hfound
      rw [Bool.not_eq_true', ← Bool.not_eq_true, hasVolume_iff] at hfree
      exact ⟨hfree, numbered_ne_empty _ i, slash_notMem_numbered (slash_notMem_nameFor _) i⟩
    · cases h
  · rw [if_neg hbase] at h
    obtain rfl := Except.ok.inj h
    rw [hasVolume_iff] at hbase
    exact ⟨hbase, nameFor_ne_empty mountpoint, slash_notMem_nameFor mountpoint⟩

/-! ## Whole extents -/

/-- A size rounded up is the least number of whole extents for it. -/
lemma isLeast_roundUp (size : Nat) :
    IsLeast {whole | extent ∣ whole ∧ size ≤ whole} (roundUp size extent) :=
  ⟨⟨Size.dvd_roundUp size extent, Size.le_roundUp size extent_pos⟩,
    fun _ h => Size.roundUp_le_of_dvd h.2 h.1⟩

lemma exists_wholeExtents_iff (size : Nat) :
    (∃ whole, wholeExtents size = .ok whole) ↔ ∃ whole < limit, extent ∣ whole ∧ size ≤ whole := by
  have hexact := exact_wholeExtents size
  constructor
  · rintro ⟨whole, hwhole⟩
    by_cases hfits : roundUp size extent < limit
    · exact ⟨_, hfits, (isLeast_roundUp size).1⟩
    · obtain ⟨requested, hoverflow⟩ := hexact.eq_overflow hfits
      cases hwhole.symm.trans hoverflow
  · rintro ⟨whole, hlt, hwhole⟩
    exact ⟨_, hexact.eq_ok (Nat.lt_of_le_of_lt ((isLeast_roundUp size).2 hwhole) hlt)⟩

/-! ## One volume -/

/-- What a group is asked for. -/
structure Creation where
  /-- The name of the volume; one is made up when it is empty. -/
  name : String
  /-- Its least size. -/
  size : Nat
  /-- The filesystem on it. -/
  payload : Filesystem

namespace Creation

/-- `v` is a volume that was asked for: its name is the given one, or has no slash in it if none is
given, and its size is the least number of whole extents for what was asked. -/
structure IsMetBy (c : Creation) (v : LogicalVolume) : Prop where
  payload_eq : v.payload = c.payload
  name_eq : c.name ≠ "" → v.name = c.name
  slash_notMem : c.name = "" → '/' ∉ v.name.toList
  size_least : IsLeast {size | extent ∣ size ∧ c.size ≤ size} v.size

/-- Asks the group at hand for a volume. -/
def run (c : Creation) : StateM VolumeGroup (Except PlanError LogicalVolume) :=
  (createInPlace c.name c.size c.payload).run

variable {c : Creation} {g : VolumeGroup}

lemma name_of_chooseName {name : String} (h : g.chooseName c.name c.payload = .ok name) :
    name ∉ g.names ∧ name ≠ "" ∧ (c.name ≠ "" → name = c.name) ∧
      (c.name = "" → '/' ∉ name.toList) := by
  rw [chooseName] at h
  by_cases hgiven : c.name = ""
  · rw [if_pos hgiven] at h
    obtain ⟨hfree, hne, hslash⟩ := freeName_spec h
    exact ⟨hfree, hne, fun hc => absurd hgiven hc, fun _ => hslash⟩
  · rw [if_neg hgiven] at h
    split at h
    · cases h
    · next hfree =>
      obtain rfl := Except.ok.inj h
      rw [hasVolume_iff] at hfree
      exact ⟨hfree, hgiven, fun _ => rfl, fun hc => absurd hc hgiven⟩

lemma isMetBy_of_newVolume {v : LogicalVolume}
    (h : g.newVolume c.name c.size c.payload = .ok v) :
    c.IsMetBy v ∧ v.name ∉ g.names ∧ v.name ≠ "" := by
  obtain ⟨name, hname, h⟩ := bind_eq_ok_iff.mp h
  obtain ⟨size, hsize, h⟩ := bind_eq_ok_iff.mp h
  obtain rfl := Except.ok.inj h
  obtain ⟨hfree, hne, hgiven, hslash⟩ := name_of_chooseName hname
  have hleast := isLeast_roundUp c.size
  rw [← (exact_wholeExtents c.size).eq_of_ok hsize] at hleast
  exact ⟨⟨rfl, hgiven, hslash, hleast⟩, hfree, hne⟩

/-- A group that is asked for a volume refuses and stays as it is, or it has at its end a volume
that was asked for, under a name that is new. -/
lemma run_cases (c : Creation) (g : VolumeGroup) :
    (∃ e, c.run.run g = (.error e, g)) ∨
      ∃ v, c.run.run g = (.ok v, { g with logicalVolumes := g.logicalVolumes ++ [v] })
        ∧ c.IsMetBy v ∧ v.name ∉ g.names ∧ v.name ≠ "" := by
  have hrun := run_createInPlace g c.name c.size c.payload
  rcases hnew : g.newVolume c.name c.size c.payload with e | v
  · rw [hnew] at hrun
    exact .inl ⟨e, hrun⟩
  · rw [hnew] at hrun
    exact .inr ⟨v, hrun, isMetBy_of_newVolume hnew⟩

lemma isMetBy_of_run {v : LogicalVolume} (h : (c.run.run g).1 = .ok v) : c.IsMetBy v := by
  rcases run_cases c g with ⟨e, hrun⟩ | ⟨v', hrun, hmet, -⟩
  · rw [hrun] at h
    cases h
  · rw [hrun] at h
    obtain rfl := Except.ok.inj h
    exact hmet

lemma eq_of_run_error {e : PlanError} {g' : VolumeGroup} (h : c.run.run g = (.error e, g')) :
    g' = g := by
  rcases run_cases c g with ⟨e', hrun⟩ | ⟨v, hrun, -⟩
  · exact congrArg Prod.snd (h.symm.trans hrun)
  · cases congrArg Prod.fst (h.symm.trans hrun)

lemma exists_chooseName_iff (h : g.logicalVolumes.length ≤ 100) :
    (∃ name, g.chooseName c.name c.payload = .ok name) ↔ c.name = "" ∨ c.name ∉ g.names := by
  rw [chooseName, ← hasVolume_iff]
  by_cases hgiven : c.name = ""
  · rw [if_pos hgiven, freeName_eq h]
    exact ⟨fun _ => .inl hgiven, fun _ => ⟨_, rfl⟩⟩
  · rw [if_neg hgiven, or_iff_right hgiven]
    split
    · next htaken =>
      constructor
      · rintro ⟨name, hname⟩
        cases hname
      · exact fun hfree => absurd htaken hfree
    · next hfree => exact ⟨fun _ => hfree, fun _ => ⟨_, rfl⟩⟩

/-- A group with up to a hundred volumes refuses only a size that cannot be rounded up and a name
that is taken. -/
lemma exists_run_ok_iff (h : g.logicalVolumes.length ≤ 100) :
    (∃ v g', c.run.run g = (.ok v, g')) ↔
      (∃ whole < limit, extent ∣ whole ∧ c.size ≤ whole) ∧ (c.name = "" ∨ c.name ∉ g.names) := by
  rw [← exists_wholeExtents_iff, ← exists_chooseName_iff h]
  have hrun := run_createInPlace g c.name c.size c.payload
  constructor
  · rintro ⟨v, g', hok⟩
    rcases hnew : g.newVolume c.name c.size c.payload with e | v'
    · rw [hnew] at hrun
      cases congrArg Prod.fst (hok.symm.trans hrun)
    · obtain ⟨name, hname, hrest⟩ := bind_eq_ok_iff.mp hnew
      obtain ⟨whole, hwhole, -⟩ := bind_eq_ok_iff.mp hrest
      exact ⟨⟨whole, hwhole⟩, name, hname⟩
  · rintro ⟨⟨whole, hwhole⟩, name, hname⟩
    have hnew : g.newVolume c.name c.size c.payload = .ok ⟨name, whole, c.payload⟩ := by
      rw [newVolume, hname, hwhole]
      rfl
    rw [hnew] at hrun
    exact ⟨_, _, hrun⟩

end Creation

/-! ## One after the other -/

/-- Asks the group at hand for one volume after the other, also when it refuses some of them. -/
def createAll (cs : List Creation) : StateM VolumeGroup (List (Except PlanError LogicalVolume)) :=
  cs.mapM Creation.run

/-- The names of a group's volumes are distinct and not empty. -/
structure HasProperNames (g : VolumeGroup) : Prop where
  nodup : g.names.Nodup
  empty_notMem : "" ∉ g.names

lemma hasProperNames_new (name : String) : (new name).HasProperNames := ⟨.nil, by simp [names, new]⟩

lemma HasProperNames.concat {g : VolumeGroup} (h : g.HasProperNames) {v : LogicalVolume}
    (hfree : v.name ∉ g.names) (hne : v.name ≠ "") :
    HasProperNames { g with logicalVolumes := g.logicalVolumes ++ [v] } := by
  have hnames : names { g with logicalVolumes := g.logicalVolumes ++ [v] } = g.names ++ [v.name] :=
    List.map_append
  constructor
  · rw [hnames, ← List.concat_eq_append]
    exact h.nodup.concat hfree
  · rw [hnames, List.mem_append, List.mem_singleton]
    rintro (hmem | hempty)
    · exact h.empty_notMem hmem
    · exact hne hempty.symm

lemma HasProperNames.run {g : VolumeGroup} (h : g.HasProperNames) (c : Creation) :
    (c.run.run g).2.HasProperNames := by
  rcases c.run_cases g with ⟨e, hrun⟩ | ⟨v, hrun, -, hfree, hne⟩
  · rw [hrun]
    exact h
  · rw [hrun]
    exact h.concat hfree hne

lemma run_createAll_cons (c : Creation) (cs : List Creation) (g : VolumeGroup) :
    (createAll (c :: cs)).run g =
      ((c.run.run g).1 :: ((createAll cs).run (c.run.run g).2).1,
        ((createAll cs).run (c.run.run g).2).2) := by
  rw [createAll, List.mapM_cons]
  rfl

lemma HasProperNames.createAll {g : VolumeGroup} (h : g.HasProperNames) (cs : List Creation) :
    ((createAll cs).run g).2.HasProperNames := by
  induction cs generalizing g with
  | nil => exact h
  | cons c cs ih =>
    rw [run_createAll_cons]
    exact ih (h.run c)

/-- A group holds what it held before and behind it the volumes that it did not refuse. -/
lemma logicalVolumes_createAll (cs : List Creation) (g : VolumeGroup) :
    ((createAll cs).run g).2 = { g with
      logicalVolumes := g.logicalVolumes ++ ((createAll cs).run g).1.filterMap (·.toOption) } := by
  induction cs generalizing g with
  | nil =>
    show g = { g with logicalVolumes := g.logicalVolumes ++ [] }
    rw [List.append_nil]
  | cons c cs ih =>
    rw [run_createAll_cons]
    rcases c.run_cases g with ⟨e, hrun⟩ | ⟨v, hrun, -⟩
    · rw [hrun]
      exact ih g
    · rw [hrun]
      refine (ih _).trans ?_
      dsimp only
      rw [List.append_assoc]
      rfl

/-- **A group holds the volumes that it did not refuse.**  However often a new group is asked for
volumes, it holds those that it gave back, in that order, under distinct names that are not empty;
each is what was asked for, in the least number of whole extents.  What it refuses next leaves it as
it is, and while it has up to a hundred volumes it refuses only a size that cannot be rounded up and
a name that is taken. -/
theorem createAll_holds_made (name : String) (cs : List Creation) :
    ∃ results g, (createAll cs).run (new name) = (results, g)
      ∧ g = { new name with logicalVolumes := results.filterMap (·.toOption) }
      ∧ List.Forall₂ (fun r c => ∀ v, r = .ok v → c.IsMetBy v) results cs
      ∧ g.names.Nodup ∧ "" ∉ g.names
      ∧ (∀ (c : Creation) e g', c.run.run g = (.error e, g') → g' = g)
      ∧ (g.logicalVolumes.length ≤ 100 → ∀ c : Creation,
        (∃ v g', c.run.run g = (.ok v, g')) ↔
          (∃ whole < limit, extent ∣ whole ∧ c.size ≤ whole) ∧
            (c.name = "" ∨ c.name ∉ g.names)) := by
  have hproper := (hasProperNames_new name).createAll cs
  have hmet : List.Forall₂ (fun r c => ∀ v, r = .ok v → c.IsMetBy v)
      ((createAll cs).run (new name)).1 cs :=
    forall₂_run_mapM (fun c g v h => Creation.isMetBy_of_run h) cs (new name)
  exact ⟨_, _, rfl, logicalVolumes_createAll cs (new name), hmet, hproper.nodup,
    hproper.empty_notMem, fun _ _ _ => Creation.eq_of_run_error,
    fun hcount _ => Creation.exists_run_ok_iff hcount⟩

/-- A made name may be refused as a given one later on. -/
example : ((createAll (["", "", "varlv00", ""].map fun name =>
    ⟨name, 1, Filesystem.mountedAt .xfs "/var"⟩)).run (new "")).2.names =
      ["varlv", "varlv00", "varlv01"] := by decide

end VolumeGroup
end DiskPlan
