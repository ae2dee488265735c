import DiskPlan.Proofs.Customization.Reordered
import DiskPlan.Proofs.Plan.Told

/-!
# Plans of reordered customizations

The order in which plain filesystems and subvolumes are declared decides where partitions lie, but
neither whether a plan succeeds nor any size.  The components of a reordered customization are the
same up to their order and that of their subvolumes, and all that is added up on the way is a total
over the components.  So both tables need the same size and grant their components the same
(`Customization.plan_of_isReorderingOf`).

What is told for a mountpoint is the size of the first mountable there.  Where a mountpoint occurs
once the order makes no difference; the one that can occur twice is `/boot/efi`, and there the EFI
system partition comes first in both tables.
-/
namespace DiskPlan

open Size (limit)

/-! ## Reordered components -/

/-- `k'` is the component `k`, and the subvolumes that it holds may be in another order. -/
inductive Component.IsReorderingOf : Component → Component → Prop where
  | same (k : Component) : IsReorderingOf k k
  | volume {r' r : BtrfsVolumeRequest} (h : r'.IsReorderingOf r) :
    IsReorderingOf (.volume r') (.volume r)

namespace Component.IsReorderingOf

variable {k' k : Component}

lemma mountpoints_perm (h : k'.IsReorderingOf k) : k'.mountpoints.Perm k.mountpoints := by
  cases h with
  | same => exact .refl _
  | volume h => exact h.subvolumes_perm.map _

lemma holdsRoot_eq (h : k'.IsReorderingOf k) : k'.holdsRoot = k.holdsRoot := by
  rw [Bool.eq_iff_iff, holdsRoot, holdsRoot, List.contains_iff_mem, List.contains_iff_mem]
  exact h.mountpoints_perm.mem_iff

lemma room_eq (h : k'.IsReorderingOf k) (need : String → Nat) : k'.room need = k.room need := by
  cases h with
  | same => rfl
  | volume h =>
    rw [room, room, base, base, needed, needed, h.minsize_eq, Size.total_perm h.subvolumes_perm]

lemma told_perm (h : k'.IsReorderingOf k) (need : String → Nat) (size : Nat) :
    (k'.told need size).Perm (k.told need size) := by
  cases h with
  | same => exact .refl _
  | volume h => exact h.subvolumes_perm.map _

end Component.IsReorderingOf

namespace Customization

variable {c' c : Customization} {options : Options} {defaultType : FsType}

lemma components_eq_append (c : Customization) (mode : BootMode) :
    c.components mode = mode.components ++ c.components .none := by
  simp only [components, plannedComponents, List.append_assoc]
  rfl

/-- The components are those of the first customization, up to their order and that of what they
hold. -/
lemma IsReorderingOf.components (h : c'.IsReorderingOf c) (mode : BootMode) :
    IsReordered Component.IsReorderingOf (c'.components mode) (c.components mode) := by
  have hsame (ks : List Component) : IsReordered Component.IsReorderingOf ks ks :=
    .of_perm .same (.refl ks)
  have hmountpoints (k : String) : k ∈ c'.mountpoints ↔ k ∈ c.mountpoints :=
    h.mountpoints_perm.mem_iff
  have hboot : c'.addedBoot = c.addedBoot := by
    simp only [addedBoot, h.logicalMountpoints_eq, h.subvolumeMountpoints_perm.mem_iff,
      hmountpoints]
  rw [Customization.components, Customization.components, plannedComponents, plannedComponents,
    hboot, h.volumeGroups_eq]
  simp only [hmountpoints]
  refine .append (.append (.append (.append (hsame _) ?_) (hsame _)) ?_) (hsame _)
  · exact .of_perm .same (h.plainFilesystems_perm.map _)
  · refine .of_forall₂ ?_
    rw [List.forall₂_map_left_iff, List.forall₂_map_right_iff]
    exact h.btrfsVolumes.imp fun _ _ hr => .volume hr

/-- Each mountpoint is owed what it was. -/
lemma IsReorderingOf.owed_eq (h : c'.IsReorderingOf c) (options : Options) :
    c'.owed options = c.owed options := by
  have hperm : ((c'.components options.bootMode).flatMap (·.mountpoints)).Perm
      ((c.components options.bootMode).flatMap (·.mountpoints)) :=
    (h.components options.bootMode).flatMap_perm fun _ _ hk => hk.mountpoints_perm
  exact owed_congr (fun _ => hperm.mem_iff) options.requiredSizes

end Customization

/-! ## Tables that need the same size -/

namespace Table

lemma finalized_grown (t : Table) (required : PathMap Nat) :
    (t.grown required).finalized = t.finalized := rfl

lemma sectorSize_grown (t : Table) (required : PathMap Nat) :
    (t.grown required).sectorSize = t.sectorSize := rfl

lemma size_grown (t : Table) (required : PathMap Nat) : (t.grown required).size = t.size := rfl

/-- The table `t'` has as many partitions as `t`, which take the same room together. -/
structure HasSpaceOf (t' t : Table) : Prop where
  type_eq : t'.type = t.type
  sectorSize_eq : t'.sectorSize = t.sectorSize
  size_eq : t'.size = t.size
  length_eq : t'.partitions.length = t.partitions.length
  roomOf_eq : roomOf t'.partitions = roomOf t.partitions

namespace HasSpaceOf

variable {t' t : Table}

lemma header_eq (h : t'.HasSpaceOf t) : t'.header = t.header := by
  rw [header, header, entrySpace, entrySpace, h.type_eq, h.sectorSize_eq, h.length_eq]

lemma footer_eq (h : t'.HasSpaceOf t) : t'.footer = t.footer := by
  rw [footer, footer, h.type_eq, h.header_eq]

lemma firstStart_eq (h : t'.HasSpaceOf t) : t'.firstStart = t.firstStart := by
  rw [firstStart, firstStart, h.header_eq]

lemma naturalSize_eq (h : t'.HasSpaceOf t) : t'.naturalSize = t.naturalSize := by
  rw [naturalSize, naturalSize, h.firstStart_eq, h.roomOf_eq, h.footer_eq]

lemma requestedSize_eq (h : t'.HasSpaceOf t) (minimum : Nat) :
    t'.requestedSize minimum = t.requestedSize minimum := by
  rw [requestedSize, requestedSize, h.size_eq]

lemma settledSize_eq (h : t'.HasSpaceOf t) (minimum : Nat) :
    t'.settledSize minimum = t.settledSize minimum := by
  rw [settledSize, settledSize, h.naturalSize_eq, h.requestedSize_eq]

lemma isTooSmall_iff (h : t'.HasSpaceOf t) (minimum : Nat) (mode : SizingMode) :
    t'.IsTooSmall minimum mode ↔ t.IsTooSmall minimum mode := by
  rw [IsTooSmall, IsTooSmall, h.requestedSize_eq, h.naturalSize_eq]

end HasSpaceOf

lemma IsFinished.size_eq {t d : Table} {required : PathMap Nat} {minimum : Nat}
    (h : t.IsFinished d required minimum) : t.size = (d.grown required).settledSize minimum := by
  rw [h.identified.eq]
  rfl

end Table

namespace Customization

variable {c' c : Customization} {options : Options} {defaultType : FsType}

lemma size_blueprint (c : Customization) (options : Options) (defaultType : FsType) :
    (c.blueprint options defaultType).size = 0 := by
  rw [blueprint, tableWith]
  split
  · rfl
  · rfl

/-- The rooms of the grown draft are those of the components. -/
lemma roomOf_grown_blueprint
    (habs : ∀ e ∈ options.requiredSizes.entries, Path.isAbsolute e.1 = true) :
    roomOf ((c.blueprint options defaultType).grown options.requiredSizes).partitions =
      Size.total (·.room (c.owed options)) (c.components options.bootMode) := by
  rw [Table.partitions_grown, partitions_blueprint, List.map_map, roomOf, Size.total_map]
  simp only [Function.comp_apply, Component.room_grown_draft, amount_chargesOf_blueprint habs]

lemma length_grown_blueprint (c : Customization) (options : Options) (defaultType : FsType) :
    ((c.blueprint options defaultType).grown options.requiredSizes).partitions.length =
      (c.components options.bootMode).length := by
  rw [Table.partitions_grown, partitions_blueprint, List.length_map, List.length_map]

/-- The drafts take the same space once they have grown. -/
lemma IsReorderingOf.hasSpaceOf (h : c'.IsReorderingOf c)
    (habs : ∀ e ∈ options.requiredSizes.entries, Path.isAbsolute e.1 = true) :
    ((c'.blueprint options defaultType).grown options.requiredSizes).HasSpaceOf
      ((c.blueprint options defaultType).grown options.requiredSizes) where
  type_eq := by
    rw [Table.type_grown, Table.type_grown, type_blueprint, type_blueprint]
  sectorSize_eq := by
    rw [Table.sectorSize_grown, Table.sectorSize_grown, blueprint, blueprint,
      (tableWith_sectorSize _ _ _ _).2, (tableWith_sectorSize _ _ _ _).2]
  size_eq := by
    rw [Table.size_grown, Table.size_grown, size_blueprint, size_blueprint]
  length_eq := by
    rw [length_grown_blueprint, length_grown_blueprint, (h.components options.bootMode).length_eq]
  roomOf_eq := by
    rw [roomOf_grown_blueprint habs, roomOf_grown_blueprint habs, h.owed_eq]
    exact (h.components options.bootMode).total_eq fun _ _ hk => hk.room_eq _

/-! ## Plans that succeed -/

/-- A plan goes through when the customization is accepted, its groups can be listed and the grown
table fits. -/
lemma exists_plan_iff {stream : ByteStream} :
    (∃ result, plan (some c) options stream = .ok result) ↔
      c.validate = .ok () ∧ ∃ defaultType, options.defaultFsType = some defaultType
        ∧ (∃ groups, c.volumeGroups.mapM (·.partition options.effectiveTableType defaultType) =
          .ok groups)
        ∧ ((c.blueprint options defaultType).grown options.requiredSizes).settledSize c.minsize
          < limit
        ∧ ¬ ((c.blueprint options defaultType).grown options.requiredSizes).IsTooSmall c.minsize
          options.mode := by
  constructor
  · rintro ⟨result, hresult⟩
    obtain ⟨placed, hplaced, -⟩ := plan_eq_ok_iff.mp hresult
    obtain ⟨hvalid, defaultType, htype, drafted, hdrafted, grown, hgrown, hallocated⟩ :=
      layOut_eq_ok_iff.mp hplaced
    obtain ⟨groups, hgroups, -⟩ := bind_eq_ok_iff.mp hdrafted
    obtain rfl := eq_of_draft hdrafted
    obtain rfl := (Table.exact_growDirectories _ _).eq_of_ok hgrown
    obtain ⟨-, -, hfit, hsmall, -⟩ := Table.allocate_eq_ok_iff.mp hallocated
    exact ⟨hvalid, defaultType, htype, ⟨groups, hgroups⟩, hfit, hsmall⟩
  · rintro ⟨hvalid, defaultType, htype, ⟨groups, hgroups⟩, hfit, hsmall⟩
    obtain ⟨hfinalized, hsector⟩ := c.tableWith_sectorSize options defaultType
      (c.volumeGroups.map (·.exactPartition options.effectiveTableType defaultType))
    have hdraft : c.draft options defaultType = .ok (c.tableWith options defaultType groups) := by
      rw [draft, hgroups, ok_bind]
      rfl
    rw [eq_of_draft hdraft] at hdraft
    have hgrown := (Table.exact_growDirectories _ _).eq_ok (Table.growthFits_of_settledSize hfit)
    have hfresh : ((c.blueprint options defaultType).grown options.requiredSizes).finalized =
        false := by
      rw [Table.finalized_grown, blueprint, hfinalized]
    have hsectors : isSectorSize
        ((c.blueprint options defaultType).grown options.requiredSizes).sectorSize = true := by
      rw [Table.sectorSize_grown, blueprint, hsector]
      rfl
    have hallocated := Table.allocate_eq_ok_iff.mpr ⟨hfresh, hsectors, hfit, hsmall, rfl⟩
    exact ⟨_, plan_eq_ok_iff.mpr ⟨_, layOut_eq_ok_iff.mpr
      ⟨hvalid, defaultType, htype, _, hdraft, _, hgrown, hallocated⟩, rfl⟩⟩

/-- A reordered customization is planned just when the first one is. -/
lemma IsReorderingOf.exists_plan_iff (h : c'.IsReorderingOf c)
    (habs : ∀ e ∈ options.requiredSizes.entries, Path.isAbsolute e.1 = true)
    (stream' stream : ByteStream) :
    (∃ result, plan (some c') options stream' = .ok result) ↔
      ∃ result, plan (some c) options stream = .ok result := by
  rw [Customization.exists_plan_iff, Customization.exists_plan_iff, h.validate_iff,
    h.volumeGroups_eq, h.minsize_eq]
  simp only [(h.hasSpaceOf habs).settledSize_eq, (h.hasSpaceOf habs).isTooSmall_iff]

end Customization

/-! ## Sizes that are told -/

/-- Pairs with distinct keys are found in any order. -/
lemma lookup_eq_of_perm {β : Type} {as bs : List (String × β)} (h : as.Perm bs)
    (hnodup : (as.map (·.1)).Nodup) (k : String) : as.lookup k = bs.lookup k := by
  induction h with
  | nil => rfl
  | cons a _ ih =>
    rw [PathMap.lookup_cons_eq_ite, PathMap.lookup_cons_eq_ite, ih (List.nodup_cons.mp hnodup).2]
  | swap a b as =>
    have hne : b.1 ≠ a.1 := fun heq => (List.nodup_cons.mp hnodup).1 (by simp [heq])
    rw [PathMap.lookup_cons_eq_ite, PathMap.lookup_cons_eq_ite, PathMap.lookup_cons_eq_ite,
      PathMap.lookup_cons_eq_ite]
    by_cases ha : k = a.1
    · rw [if_pos ha, if_neg (fun hb => hne (hb.symm.trans ha)), if_pos ha]
    · rw [if_neg ha, if_neg ha]
  | trans hab _ ih ih' =>
    rw [ih hnodup, ih' ((hab.map (·.1)).nodup_iff.mp hnodup)]

namespace Customization

variable {c' c : Customization} {options : Options} {defaultType : FsType}

/-- What the root is left does not depend on the order of the others. -/
lemma IsReorderingOf.granted_eq (h : c'.IsReorderingOf c)
    (habs : ∀ e ∈ options.requiredSizes.entries, Path.isAbsolute e.1 = true) {k' k : Component}
    (hk : k'.IsReorderingOf k) :
    c'.granted options defaultType k' = c.granted options defaultType k := by
  have hspace := @hasSpaceOf c' c options defaultType h habs
  have hothers : Size.total (·.room (c.owed options))
      ((c'.components options.bootMode).filter (!·.holdsRoot)) =
      Size.total (·.room (c.owed options))
        ((c.components options.bootMode).filter (!·.holdsRoot)) :=
    ((h.components options.bootMode).filter fun _ _ hk => by rw [hk.holdsRoot_eq]).total_eq
      fun _ _ hk => hk.room_eq _
  rw [granted, granted, hk.holdsRoot_eq, rootSize, rootSize, hspace.settledSize_eq,
    hspace.footer_eq, hspace.firstStart_eq, h.minsize_eq, h.owed_eq, hothers, hk.room_eq]

/-- Without what booting needs no mountpoint occurs twice. -/
lemma nodup_mountpoints_components_none (hnodup : c.mountpoints.Nodup) :
    ((c.components .none).flatMap (·.mountpoints)).Nodup := by
  have hplanned : (c.plannedMountpoints .none).Nodup :=
    (nodup_plannedMountpoints_iff hnodup .none).mpr (fun hefi => by cases hefi.1)
  rw [flatMap_mountpoints_components]
  split
  · rwa [List.append_nil]
  · next hfree =>
    refine List.nodup_append.mpr ⟨hplanned, List.nodup_singleton _, ?_⟩
    rintro k hk _ hroot rfl
    rw [List.mem_singleton] at hroot
    exact hfree (root_mem_plannedMountpoints_iff.mp (hroot ▸ hk))

/-- What a planned table tells: first what booting needs, and then what all other components hold,
each mountpoint of which occurs once. -/
lemma exists_told {t : Table}
    (habs : ∀ e ∈ options.requiredSizes.entries, Path.isAbsolute e.1 = true)
    (hnodup : c.mountpoints.Nodup)
    (h : t.IsFinished (c.blueprint options defaultType) options.requiredSizes c.minsize) :
    ∃ rest : List (String × Nat), t.told = (options.bootMode.components.flatMap fun k =>
        k.told (c.owed options) (c.granted options defaultType k)) ++ rest
      ∧ rest.Perm ((c.components .none).flatMap fun k =>
        k.told (c.owed options) (c.granted options defaultType k))
      ∧ (rest.map (·.1)).Nodup := by
  obtain ⟨root, hroot⟩ := exists_filter_holdsRoot hnodup options.bootMode
  have hboot : options.bootMode.components.filter (!·.holdsRoot) = options.bootMode.components := by
    cases options.bootMode <;> rfl
  have hbootRoot : options.bootMode.components.filter (·.holdsRoot) = [] := by
    cases options.bootMode <;> rfl
  have htold := told_of_isFinished habs h hroot
  rw [c.components_eq_append, List.filter_append, hbootRoot, List.nil_append] at hroot
  rw [c.components_eq_append, List.filter_append, hboot, ← hroot, List.append_assoc,
    List.flatMap_append] at htold
  have hperm : ((c.components .none).filter (!·.holdsRoot)
      ++ (c.components .none).filter (·.holdsRoot)).Perm (c.components .none) :=
    List.perm_append_comm.trans (List.filter_append_perm Component.holdsRoot _)
  refine ⟨_, htold, hperm.flatMap_right _, ?_⟩
  rw [List.map_flatMap]
  simp only [Component.map_fst_told]
  exact (hperm.flatMap_right _).nodup_iff.mpr (nodup_mountpoints_components_none hnodup)

/-- Both tables tell the same size for each mountpoint. -/
lemma IsReorderingOf.lookup_told_eq (h : c'.IsReorderingOf c) {t' t : Table}
    (habs : ∀ e ∈ options.requiredSizes.entries, Path.isAbsolute e.1 = true)
    (hnodup : c.mountpoints.Nodup)
    (ht' : t'.IsFinished (c'.blueprint options defaultType) options.requiredSizes c'.minsize)
    (ht : t.IsFinished (c.blueprint options defaultType) options.requiredSizes c.minsize)
    (k : String) : t'.told.lookup k = t.told.lookup k := by
  obtain ⟨rest', htold', hrest', hdistinct⟩ :=
    exists_told habs (h.mountpoints_perm.nodup_iff.mpr hnodup) ht'
  obtain ⟨rest, htold, hrest, -⟩ := exists_told habs hnodup ht
  have hsame {k' k : Component} (hk : k'.IsReorderingOf k) :
      (k'.told (c'.owed options) (c'.granted options defaultType k')).Perm
        (k.told (c.owed options) (c.granted options defaultType k)) := by
    rw [h.owed_eq, h.granted_eq habs hk]
    exact hk.told_perm _ _
  have hboot : (options.bootMode.components.flatMap fun k =>
      k.told (c'.owed options) (c'.granted options defaultType k)) =
      options.bootMode.components.flatMap fun k =>
        k.told (c.owed options) (c.granted options defaultType k) := by
    simp only [h.owed_eq, h.granted_eq habs (.same _)]
  have hperm : rest'.Perm rest :=
    (hrest'.trans ((h.components .none).flatMap_perm fun _ _ hk => hsame hk)).trans hrest.symm
  rw [htold', htold, hboot, List.lookup_append, List.lookup_append,
    lookup_eq_of_perm hperm hdistinct]

/-- **The order of declarations changes no size.**  Let a customization be reordered: its plain
filesystems among each other, and the subvolumes of its btrfs volume.  With any byte streams, both
plans succeed or both fail.  If they succeed, the tables have the same size, and they tell the same
size for each mountpoint. -/
theorem plan_of_isReorderingOf (h : c'.IsReorderingOf c)
    (habs : ∀ e ∈ options.requiredSizes.entries, Path.isAbsolute e.1 = true)
    (stream' stream : ByteStream) :
    ((∃ result, plan (some c') options stream' = .ok result) ↔
        ∃ result, plan (some c) options stream = .ok result)
      ∧ ∀ t' t rest' rest, plan (some c') options stream' = .ok (t', rest') →
        plan (some c) options stream = .ok (t, rest) →
          t'.size = t.size ∧ ∀ k, t'.sizeOf k = t.sizeOf k := by
  refine ⟨h.exists_plan_iff habs stream' stream, fun t' t rest' rest hplan' hplan => ?_⟩
  obtain ⟨-, defaultType, htype, hfinished'⟩ := isFinished_of_plan hplan'
  obtain ⟨hnodup, _, htype', hfinished⟩ := isFinished_of_plan hplan
  obtain rfl : defaultType = _ := Option.some.inj (htype.symm.trans htype')
  constructor
  · rw [hfinished'.size_eq, hfinished.size_eq]
    simp only [Option.getD_some]
    rw [(h.hasSpaceOf habs).settledSize_eq, h.minsize_eq]
  · intro k
    rw [Table.sizeOf_eq, Table.sizeOf_eq, h.lookup_told_eq habs hnodup hfinished' hfinished]

/-- Two plain filesystems change places, and so do the root and another subvolume. -/
theorem plan_of_isReorderingOf_swapped :
    ∃ (c' c : Customization) (t' t : Table) (rest' rest : ByteStream), c' ≠ c
      ∧ plan (some c') { defaultFsType := some .xfs, bootMode := .uefi
                         requiredSizes := .ofList [("/srv/www", 2147483648), ("/var/log", 7)] }
          (.counting 0) = .ok (t', rest')
      ∧ plan (some c) { defaultFsType := some .xfs, bootMode := .uefi
                        requiredSizes := .ofList [("/srv/www", 2147483648), ("/var/log", 7)] }
          (.counting 9) = .ok (t, rest)
      ∧ t'.partitions.map (·.mountpoints) = [["/boot/efi"], ["/boot"], ["/srv"], ["/home"],
          ["/var", "/"]]
      ∧ t.partitions.map (·.mountpoints) = [["/boot/efi"], ["/boot"], ["/home"], ["/srv"],
          ["/", "/var"]]
      ∧ t'.size = t.size ∧ ∀ k, t'.sizeOf k = t.sizeOf k := by
  refine ⟨{ plain := some { filesystems := [{ mountpoint := "/srv" }, { mountpoint := "/home" }] }
            btrfs := some { volumes := [{ subvolumes := [{ name := "var", mountpoint := "/var" },
              { name := "root", mountpoint := "/" }] }] } },
    { plain := some { filesystems := [{ mountpoint := "/home" }, { mountpoint := "/srv" }] }
      btrfs := some { volumes := [{ subvolumes := [{ name := "root", mountpoint := "/" },
        { name := "var", mountpoint := "/var" }] }] } },
    _, _, _, _, by decide, rfl, rfl, by decide, by decide, ?_⟩
  exact (@plan_of_isReorderingOf
    { plain := some { filesystems := [{ mountpoint := "/srv" }, { mountpoint := "/home" }] }
      btrfs := some { volumes := [{ subvolumes := [{ name := "var", mountpoint := "/var" },
        { name := "root", mountpoint := "/" }] }] } }
    { plain := some { filesystems := [{ mountpoint := "/home" }, { mountpoint := "/srv" }] }
      btrfs := some { volumes := [{ subvolumes := [{ name := "root", mountpoint := "/" },
        { name := "var", mountpoint := "/var" }] }] } }
    { defaultFsType := some .xfs, bootMode := .uefi
      requiredSizes := .ofList [("/srv/www", 2147483648), ("/var/log", 7)] }
    ⟨rfl, .some (.swap _ _ _), rfl, .some (.cons ⟨rfl, .swap _ _ _⟩ .nil)⟩
    (by decide) (.counting 0) (.counting 9)).2 _ _ _ _ rfl rfl

end Customization
end DiskPlan
