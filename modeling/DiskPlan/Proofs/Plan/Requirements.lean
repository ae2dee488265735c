import DiskPlan.Proofs.Plan.Components
import DiskPlan.Proofs.Template.Adapted

/-!
# Requirements of finished tables

What the directories of a system require, and what the requests ask for, reaches the finished table:
whichever way a table is planned, each mountpoint is told a size of at least what is owed to it, and
the subvolumes of a btrfs volume have room for all that is owed to them side by side
(`plan_holds_required`).
-/
namespace DiskPlan

/-- The drafts of components give no sizes to subvolumes. -/
lemma Component.presetsRootOnly_draft (type : TableType) (defaultType : FsType) (k : Component) :
    (k.draft type defaultType).PresetsRootOnly := by
  intro v hv
  cases k with
  | biosBoot => cases hv
  | efiSystem => cases hv
  | filesystem r => cases hv
  | group r => cases hv
  | volume r =>
    cases hv
    intro s hs
    have hmem : s ∈ r.volume.subvolumes := by
      rw [BtrfsVolume.others] at hs
      split at hs
      · exact List.mem_of_mem_eraseIdx hs
      · exact hs
    obtain ⟨request, -, rfl⟩ := List.mem_map.mp hmem
    rfl

/-- **Required and requested sizes reach the finished table.**  In a table that is planned from a
customization, and in one from a template whose subvolumes carry no sizes but for the root, each
mountpoint is told at least the sum of the directories that it owns, and a btrfs volume has the sums
of all its subvolumes.  In a table from a template each request has the size that it asks for, or
1 GiB if it asks for none and is new to the template. -/
theorem plan_holds_required :
    (∀ (c : Option Customization) (options : Options) (stream stream' : ByteStream) (t : Table),
      (∀ e ∈ options.requiredSizes.entries, Path.isAbsolute e.1 = true) →
      Customization.plan c options stream = .ok (t, stream') →
        t.HoldsRequired options.requiredSizes)
    ∧ ∀ (template : Table) (requests : List FilesystemRequest) (size : Nat) (mode : SizingMode)
        (required : PathMap Nat) (stream stream' : ByteStream) (t : Table),
      (∀ e ∈ required.entries, Path.isAbsolute e.1 = true) →
      (∀ p ∈ template.partitions, p.PresetsRootOnly) →
      template.fromTemplate requests size mode required stream = .ok (t, stream') →
        t.HoldsRequired required
        ∧ ∀ r ∈ requests, ∃ told, t.sizeOf r.mountpoint = .ok told
          ∧ (if r.mountpoint ∉ template.mountpoints ∧ r.minsize = 0 then 1073741824 else r.minsize)
            ≤ told := by
  constructor
  · intro c options stream stream' t habs h
    obtain ⟨-, defaultType, -, hfinished⟩ := Customization.isFinished_of_plan h
    refine hfinished.holdsRequired habs fun p hp => ?_
    rw [Customization.partitions_blueprint] at hp
    obtain ⟨k, -, rfl⟩ := List.mem_map.mp hp
    exact k.presetsRootOnly_draft _ _
  · intro template requests size mode required stream stream' t habs hpresets h
    obtain ⟨hnodup, root, -, hfinished⟩ := Table.isFinished_of_fromTemplate h
    have hadapted : ∀ p ∈ (template.adapted root.fsType requests).partitions, p.PresetsRootOnly :=
      Table.presetsRootOnly_adapted root.fsType hpresets
    refine ⟨hfinished.holdsRequired habs hadapted, fun r hr => ?_⟩
    -- the room for a request is there in the adapted template, and finishing keeps it
    have hmem : r.mountpoint ∈ t.mountpoints :=
      hfinished.mountpoints_perm.mem_iff.mpr (Table.mem_mountpoints_adapted root.fsType hr)
    have hroom := hfinished.hasRoom (Table.hasRoom_adapted root.fsType hnodup hr)
    obtain ⟨told, htold, hle⟩ :=
      Table.exists_sizeOf_of_hasRoom hroom (hfinished.reports hadapted) hmem
    rw [if_pos rfl, Table.askedSize] at hle
    exact ⟨told, htold, hle⟩

/-- A directory below a subvolume is charged to it, whether the volume is asked for or comes with a
template. -/
theorem plan_holds_required_of_subvolumes :
    (∃ t stream', Customization.plan
        (some { btrfs := some { volumes := [{ subvolumes :=
          [{ name := "root", mountpoint := "/" }, { name := "var", mountpoint := "/var" }] }] } })
        { defaultFsType := some .xfs
          requiredSizes := .ofList [("/usr", 5), ("/var/log", 3221225472)] }
        (.counting 0) = .ok (t, stream')
      ∧ t.HoldsRequired (.ofList [("/usr", 5), ("/var/log", 3221225472)])
      ∧ owed t.mountpoints (.ofList [("/usr", 5), ("/var/log", 3221225472)]) "/var" = 3221225472)
    ∧ ∃ t stream', Table.fromTemplate
        { type := .gpt, partitions := [{ size := 1048576, type := "a", payload := some (.btrfs
          { subvolumes := [{ name := "root", mountpoint := "/", size := some 7 },
            { name := "var", mountpoint := "/var" }] }) }] }
        [{ mountpoint := "/var", minsize := 5368709120 }, { mountpoint := "/srv" }] 0 .grow
        (.ofList [("/srv/a", 2147483648)]) (.counting 0) = .ok (t, stream')
      ∧ t.HoldsRequired (.ofList [("/srv/a", 2147483648)])
      ∧ (∃ told, t.sizeOf "/var" = .ok told ∧ 5368709120 ≤ told) := by
  constructor
  · refine ⟨_, _, rfl, ?_, by decide⟩
    exact plan_holds_required.1
      (some { btrfs := some { volumes := [{ subvolumes :=
        [{ name := "root", mountpoint := "/" }, { name := "var", mountpoint := "/var" }] }] } })
      { defaultFsType := some .xfs
        requiredSizes := .ofList [("/usr", 5), ("/var/log", 3221225472)] }
      (.counting 0) _ _ (by decide) rfl
  · refine ⟨_, _, rfl, ?_⟩
    have hholds := plan_holds_required.2
      { type := .gpt, partitions := [{ size := 1048576, type := "a", payload := some (.btrfs
          { subvolumes := [{ name := "root", mountpoint := "/", size := some 7 },
            { name := "var", mountpoint := "/var" }] }) }] }
      [{ mountpoint := "/var", minsize := 5368709120 }, { mountpoint := "/srv" }] 0 .grow
      (.ofList [("/srv/a", 2147483648)]) (.counting 0) _ _ (by decide) (by
        intro p hp v hv
        obtain rfl := List.mem_singleton.mp hp
        cases hv
        decide) rfl
    exact ⟨hholds.1, hholds.2 _ List.mem_cons_self⟩

end DiskPlan
