import DiskPlan.Proofs.Allocation.Layout

/-!
# What allocation keeps

Allocation moves the first partition with the root behind all others and gives every partition its
place.  Both are described here without the functions that do them: the order as a relation between
lists (`IsRootLastOf`), and what may change of a partition along the data
(`Partition.IsResizingOf`), down to the one subvolume that reports the size of its volume.  As the
partitions of a table and those of the allocated one are related in order, none can have been given
the place of another.
-/
namespace DiskPlan

/-! ## The order -/

/-- `qs` are the partitions `ps` in their order, but for the first one that mounts the root, which
comes last. -/
inductive IsRootLastOf : List Partition → List Partition → Prop where
  /-- Nothing moves where no partition mounts the root. -/
  | rootless {ps : List Partition} (h : ∀ p ∈ ps, p.mounts "/" = false) : IsRootLastOf ps ps
  /-- What was behind the root closes up. -/
  | root {front back : List Partition} {root : Partition}
    (hfront : ∀ p ∈ front, p.mounts "/" = false) (hroot : root.mounts "/" = true) :
    IsRootLastOf (front ++ back ++ [root]) (front ++ root :: back)

lemma IsRootLastOf.perm {qs ps : List Partition} (h : IsRootLastOf qs ps) : qs.Perm ps := by
  cases h with
  | rootless _ => exact .refl _
  | @root front back root _ _ =>
    rw [List.append_assoc]
    exact List.perm_append_comm.append_left front

lemma isRootLastOf_rootLast (ps : List Partition) : IsRootLastOf (rootLast ps) ps := by
  induction ps with
  | nil => exact .rootless (List.forall_mem_nil _)
  | cons p ps ih =>
    rw [rootLast]
    by_cases hp : p.mounts "/" = true
    · rw [if_pos hp]
      exact @IsRootLastOf.root [] ps p (List.forall_mem_nil _) hp
    · have hp' : p.mounts "/" = false := by simpa using hp
      rw [if_neg hp]
      -- the root stays where it is found in the rest, which now has `p` in front
      generalize rootLast ps = qs at ih ⊢
      cases ih with
      | rootless h => exact .rootless (List.forall_mem_cons.mpr ⟨hp', h⟩)
      | root hfront hroot => exact .root (List.forall_mem_cons.mpr ⟨hp', hfront⟩) hroot

/-! ## The partitions -/

/-- `v'` is the btrfs volume `v` with a size reported by its first subvolume at the root. -/
inductive BtrfsVolume.IsReportOf (size : Nat) : BtrfsVolume → BtrfsVolume → Prop where
  /-- Nothing is reported where no subvolume is mounted at the root. -/
  | rootless {v : BtrfsVolume} (h : ∀ s ∈ v.subvolumes, s.mountpoint ≠ "/") : IsReportOf size v v
  /-- The root is given the size, and nothing else is changed. -/
  | root {v : BtrfsVolume} {front back : List Subvolume} {root : Subvolume}
    (hsplit : v.subvolumes = front ++ root :: back) (hfront : ∀ s ∈ front, s.mountpoint ≠ "/")
    (hroot : root.mountpoint = "/") :
    IsReportOf size { v with subvolumes := front ++ { root with size := some size } :: back } v

/-- `payload'` is `payload` on a partition of the given size. -/
inductive Payload.IsReportOf (size : Nat) : Payload → Payload → Prop where
  | filesystem (fs : Filesystem) : IsReportOf size (.filesystem fs) (.filesystem fs)
  | lvm (group : VolumeGroup) : IsReportOf size (.lvm group) (.lvm group)
  | btrfs {v' v : BtrfsVolume} (h : v'.IsReportOf size v) : IsReportOf size (.btrfs v') (.btrfs v)

/-- `q` is the partition `p` in another place, perhaps larger. -/
structure Partition.IsResizingOf (q p : Partition) : Prop where
  eq : q = { p with start := q.start, size := q.size, payload := q.payload }
  size_le : p.size ≤ q.size
  payload : Option.Rel (Payload.IsReportOf q.size) q.payload p.payload

lemma BtrfsVolume.isReportOf_reportSize (v : BtrfsVolume) (size : Nat) :
    (v.reportSize size).IsReportOf size v := by
  rw [reportSize]
  rcases hprimary : v.primary? with _ | i
  · refine .rootless fun s hs => ?_
    simpa using List.findIdx?_eq_none_iff.mp hprimary s hs
  · obtain ⟨hi, hroot, hfirst⟩ := List.findIdx?_eq_some_iff_getElem.mp hprimary
    have hsplit : v.subvolumes =
        v.subvolumes.take i ++ v.subvolumes[i] :: v.subvolumes.drop (i + 1) := by
      rw [← List.drop_eq_getElem_cons hi, List.take_append_drop]
    have hfront : ∀ s ∈ v.subvolumes.take i, s.mountpoint ≠ "/" := by
      intro s hs
      obtain ⟨j, hj, rfl⟩ := List.mem_take_iff_getElem.mp hs
      simpa using hfirst j (by omega)
    simp only [List.modify_eq_take_cons_drop hi]
    exact .root hsplit hfront (by simpa using hroot)

/-- Giving a partition a place and a size resizes it. -/
lemma Partition.isResizingOf_reportSize {p : Partition} {size : Nat} (h : p.size ≤ size)
    (start : Nat) : { p with start, size : Partition }.reportSize.IsResizingOf p := by
  rw [reportSize]
  rcases hp : p.payload with _ | ⟨fs | group | volume⟩
  · refine ⟨rfl, h, ?_⟩
    rw [hp]
    exact Option.Rel.none
  · refine ⟨rfl, h, ?_⟩
    rw [hp]
    exact Option.Rel.some (.filesystem fs)
  · refine ⟨rfl, h, ?_⟩
    rw [hp]
    exact Option.Rel.some (.lvm group)
  · refine ⟨rfl, h, ?_⟩
    rw [hp]
    exact Option.Rel.some (.btrfs (volume.isReportOf_reportSize size))

lemma Partition.IsPlacementOf.isResizingOf {q p : Partition} (h : q.IsPlacementOf p) :
    q.IsResizingOf p := by
  rw [h.eq]
  exact isResizingOf_reportSize h.declared_le q.start

/-! ## The table -/

namespace Table

/-- **Allocation only reorders and resizes.**  The partitions of the allocated table are those of
the table, in the same order but for the first one with the root, which comes last.  Each of them
differs from what it was in its place and its size only, and in the size that a subvolume at the
root reports of it.  Of the table itself only the size and the mark are changed. -/
theorem allocate_reorders {t t' : Table} {minimum : Nat} {mode : SizingMode}
    (h : t.allocate minimum mode = .ok t') :
    (∃ ps, ps.Perm t.partitions ∧ IsRootLastOf ps t.partitions
        ∧ List.Forall₂ Partition.IsResizingOf t'.partitions ps)
      ∧ t' = { t with partitions := t'.partitions, size := t'.size, finalized := true } := by
  obtain ⟨-, -, hfit, -, rfl⟩ := allocate_eq_ok_iff.mp h
  have horder := isRootLastOf_rootLast t.partitions
  have hplaced := isPlacementOf_laidOut hfit
  exact ⟨⟨_, horder.perm, horder, hplaced.imp fun _ _ hq => hq.isResizingOf⟩,
    t.laidOut_eq minimum⟩

/-- A btrfs volume with the root in the middle of a table comes last, and the first of its
subvolumes at the root reports the size of the partition. -/
theorem allocate_reorders_root_between :
    ∃ t t' : Table, t.partitions.map (fun p => (p.type, p.mountpoints)) =
        [("a", []), ("b", ["/var", "/", "/"]), ("c", [])]
      ∧ t.allocate 8388608 .strict = .ok t'
      ∧ t'.partitions =
        [{ start := 1048576, size := 1048576, type := "a" },
          { start := 2097152, size := 2097152, type := "c", uuid := some "y" },
          { start := 4194304, size := 4194304, type := "b", payload := some (.btrfs
            { subvolumes :=
              [{ name := "var", mountpoint := "/var" },
                { name := "root", mountpoint := "/", size := some 4194304 },
                { name := "old", mountpoint := "/", size := some 5 }] }) }]
      ∧ (∃ ps, ps.Perm t.partitions ∧ IsRootLastOf ps t.partitions
        ∧ List.Forall₂ Partition.IsResizingOf t'.partitions ps)
      ∧ t' = { t with partitions := t'.partitions, size := t'.size, finalized := true } := by
  refine ⟨{ type := .dos, partitions :=
      [{ size := 7, type := "a" },
        { size := 1, type := "b", payload := some (.btrfs
          { subvolumes :=
            [{ name := "var", mountpoint := "/var" }, { name := "root", mountpoint := "/" },
              { name := "old", mountpoint := "/", size := some 5 }] }) },
        { size := 1048577, type := "c", uuid := some "y" }] }, _, by decide, rfl, by decide, ?_⟩
  exact allocate_reorders (show allocate _ 8388608 .strict = _ from rfl)

end Table
end DiskPlan
