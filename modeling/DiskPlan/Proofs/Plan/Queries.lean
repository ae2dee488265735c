import DiskPlan.Proofs.Mountpoints.Walks
import DiskPlan.Proofs.Template.Realized

/-!
# What finished tables answer

Later stages of an image build ask a table for the identifiers and sizes of what is mounted, and for
the options that lead a kernel to its root.  Some of these questions fail on a table in the making:
nothing may be mounted at the root yet, and what is mounted may have no identifier.  On a finished
table they all have answers, whichever way it was made: identification leaves nothing without an
identifier, and the steps before it neither drop nor lack a root (`finished_answersQueries`).

A mountpoint can be in use twice.  Then the size and the options are those of the first mountable
there, and the partition map names the last.
-/
namespace DiskPlan

/-! ## Identifiers of mountables -/

/-- What a mountable is mounted by is its own identifier. -/
inductive Mountable.IsIdentifiedBy : Mountable → String → Prop where
  | filesystem {p : Partition} {fs : Filesystem} {id : String} (h : fs.uuid = some id) :
    IsIdentifiedBy (.filesystem p fs) id
  | logicalVolume {p : Partition} {g : VolumeGroup} {v : LogicalVolume} {id : String}
    (h : v.payload.uuid = some id) : IsIdentifiedBy (.logicalVolume p g v) id
  | subvolume {p : Partition} {v : BtrfsVolume} {s : Subvolume} {id : String}
    (h : s.uuid = some id) : IsIdentifiedBy (.subvolume p v s) id

/-- A mountable with an identifier of its own is mounted by that. -/
lemma Mountable.IsIdentifiedBy.uuid_eq {m : Mountable} {id : String} (h : m.IsIdentifiedBy id) :
    m.uuid = some id := by
  cases h with
  | filesystem h => exact h
  | logicalVolume h => exact h
  | subvolume h => rw [Mountable.uuid, h, Option.some_or]

section Identified

variable {type : TableType} {p' p : Partition} {t' t : Table}

lemma Payload.IsIdentificationOf.exists_isIdentifiedBy {payload' payload : Payload}
    (h : payload'.IsIdentificationOf payload) (hp : p'.payload = some payload') :
    ∀ m ∈ p'.mountables, ∃ id, m.IsIdentifiedBy id := by
  intro m hm
  rw [Partition.mountables, hp] at hm
  cases h with
  | filesystem hfs =>
    obtain ⟨id, rfl⟩ := hfs
    dsimp only at hm
    split at hm
    · rw [List.mem_singleton.mp hm]
      exact ⟨_, .filesystem rfl⟩
    · cases hm
  | lvm hgroup =>
    obtain ⟨v, hv, rfl⟩ := List.mem_map.mp hm
    have hvolumes := forall_mem_left_of_forall₂ (P := fun v => ∃ id, v.payload.uuid = some id)
      (fun v' v hvolume => by
        obtain ⟨id, hid⟩ := hvolume.2
        exact ⟨_, by rw [hid]⟩) hgroup.volumes
    obtain ⟨id, hid⟩ := hvolumes v (List.mem_filter.mp hv).1
    exact ⟨id, .logicalVolume hid⟩
  | btrfs hvolume =>
    obtain ⟨id, rfl⟩ := hvolume
    obtain ⟨s', hs', rfl⟩ := List.mem_map.mp hm
    obtain ⟨s, -, rfl⟩ := List.mem_map.mp hs'
    exact ⟨_, .subvolume rfl⟩

lemma Partition.IsIdentificationOf.exists_isIdentifiedBy (h : p'.IsIdentificationOf type p) :
    ∀ m ∈ p'.mountables, ∃ id, m.IsIdentifiedBy id := by
  obtain ⟨hnone, -⟩ | ⟨payload', payload, hp, -, hpayload⟩ := h.payload_cases
  · intro m hm
    rw [Partition.mountables, hnone] at hm
    cases hm
  · exact hpayload.exists_isIdentifiedBy hp

/-- Whatever is mounted has an identifier. -/
lemma Table.IsIdentificationOf.exists_isIdentifiedBy (h : t'.IsIdentificationOf t) :
    ∀ m ∈ t'.mountables, ∃ id, m.IsIdentifiedBy id := by
  intro m hm
  obtain ⟨p', hp', hm⟩ := List.mem_flatMap.mp hm
  exact forall_mem_left_of_forall₂ (fun _ _ hp => hp.exists_isIdentifiedBy) h.partitions p' hp' m hm

lemma Table.IsIdentificationOf.uuid_isSome (h : t'.IsIdentificationOf t) :
    ∀ m ∈ t'.mountables, m.uuid.isSome := by
  intro m hm
  obtain ⟨id, hid⟩ := h.exists_isIdentifiedBy m hm
  rw [hid.uuid_eq]
  rfl

end Identified

/-! ## The partition map -/

namespace Table

variable {t t' : Table}

/-- The partition map has the identifier of the last mountable at a mountpoint. -/
lemma get?_partitionMap (h : ∀ m ∈ t.mountables, m.uuid.isSome) (k : String) :
    t.partitionMap.get? k =
      (t.mountables.reverse.find? fun m => m.mountpoint == k).bind (·.uuid) := by
  rw [partitionMap, PathMap.get?_ofList, ← List.filterMap_reverse]
  exact PathMap.lookup_filterMap (fun m hm => h m (List.mem_reverse.mp hm)) k

lemma isSome_get?_partitionMap_iff (h : ∀ m ∈ t.mountables, m.uuid.isSome) (k : String) :
    (t.partitionMap.get? k).isSome ↔ k ∈ t.mountpoints := by
  rw [← PathMap.mem_keys_iff, mem_keys_partitionMap_iff, ← map_mountpoint_mountables, List.mem_map]
  exact exists_congr fun m => ⟨fun hm => ⟨hm.1, hm.2.1⟩, fun hm => ⟨hm.1, hm.2, h m hm.1⟩⟩

/-- At a mountpoint that is in use once the last mountable is the first one. -/
lemma find?_reverse_mountables {k : String} (h : t.mountpoints.count k = 1) :
    t.mountables.reverse.find? (fun m => m.mountpoint == k) = t.find? k := by
  have hmem : k ∈ t.mountpoints := List.count_pos_iff.mp (by omega)
  obtain ⟨root, hroot⟩ := Option.isSome_iff_exists.mp ((t.find?_isSome_iff k).mpr hmem)
  obtain ⟨hmounted, front, back, hsplit, hfront⟩ := List.find?_eq_some_iff_append.mp hroot
  rw [← map_mountpoint_mountables, hsplit, List.map_append, List.map_cons, List.count_append,
    List.count_cons, if_pos hmounted] at h
  have hback : ∀ m ∈ back, m.mountpoint ≠ k := by
    intro m hm heq
    have hpos : 0 < (back.map (·.mountpoint)).count k :=
      List.count_pos_iff.mpr (heq ▸ List.mem_map_of_mem hm)
    omega
  rw [hroot, hsplit, List.reverse_append, List.reverse_cons, List.append_assoc]
  refine List.find?_eq_some_iff_append.mpr
    ⟨hmounted, back.reverse, front.reverse, rfl, fun m hm => ?_⟩
  simpa using hback m (List.mem_reverse.mp hm)

end Table

/-! ## What is asked of a table -/

/-- A kernel that knows the identifier of a root needs further options to get there: those of a
logical volume are found by name, and a subvolume has to be picked from its volume. -/
inductive Mountable.IsReachedBy : Mountable → List String → Prop where
  | filesystem {p : Partition} {fs : Filesystem} : IsReachedBy (.filesystem p fs) []
  | logicalVolume {p : Partition} {g : VolumeGroup} {v : LogicalVolume} :
    IsReachedBy (.logicalVolume p g v) ["rd.lvm.lv=" ++ g.name ++ "/" ++ v.name]
  | subvolume {p : Partition} {v : BtrfsVolume} {s : Subvolume} :
    IsReachedBy (.subvolume p v s) ["rootflags=subvol=" ++ s.name]

/-- Whether every question about what is mounted has an answer. -/
structure Table.AnswersQueries (t : Table) : Prop where
  /-- All that is mounted has an identifier. -/
  identified : ∀ m ∈ t.mountables, ∃ id, m.IsIdentifiedBy id
  /-- The partition map is about all mountpoints, and about nothing else. -/
  partitionMap : ∀ k, (t.partitionMap.get? k).isSome ↔ k ∈ t.mountpoints
  /-- Each mountpoint has a size. -/
  sizeOf : ∀ k ∈ t.mountpoints, ∃ size, t.sizeOf k = .ok size
  /-- The kernel is led to the first mountable at the root, which is the one in the partition map if
  there is no other. -/
  root : ∃ root id rest, t.find? "/" = some root ∧ root.IsIdentifiedBy id
    ∧ t.kernelOptions = .ok (("root=UUID=" ++ id) :: rest) ∧ root.IsReachedBy rest
    ∧ (t.mountpoints.count "/" = 1 → t.partitionMap.get? "/" = some id)
  /-- The partitions of a GPT have identifiers of their own. -/
  partition_uuid : t.type = .gpt → ∀ p ∈ t.partitions, p.uuid.isSome

namespace Table

lemma exists_rootOptions (root : Mountable) (id : String) :
    ∃ rest, rootOptions root id = ("root=UUID=" ++ id) :: rest ∧ root.IsReachedBy rest := by
  cases root with
  | filesystem p fs => exact ⟨_, rfl, .filesystem⟩
  | logicalVolume p g v => exact ⟨_, rfl, .logicalVolume⟩
  | subvolume p v s => exact ⟨_, rfl, .subvolume⟩

/-- An identified table with a root answers all questions. -/
lemma IsIdentificationOf.answersQueries {t' t : Table} (h : t'.IsIdentificationOf t)
    (hroot : "/" ∈ t'.mountpoints) : t'.AnswersQueries where
  identified := h.exists_isIdentifiedBy
  partitionMap := isSome_get?_partitionMap_iff h.uuid_isSome
  sizeOf k hk := by
    obtain ⟨m, hm⟩ := Option.isSome_iff_exists.mp ((t'.find?_isSome_iff k).mpr hk)
    exact ⟨m.size, by rw [sizeOf, hm]⟩
  root := by
    obtain ⟨root, hfind⟩ := Option.isSome_iff_exists.mp ((t'.find?_isSome_iff "/").mpr hroot)
    obtain ⟨id, hown⟩ := h.exists_isIdentifiedBy root (List.mem_of_find?_eq_some hfind)
    have hid : root.uuid = some id := hown.uuid_eq
    obtain ⟨rest, hoptions, hrest⟩ := exists_rootOptions root id
    refine ⟨root, id, rest, hfind, hown, ?_, hrest, fun hcount => ?_⟩
    · rw [kernelOptions, hfind]
      dsimp only
      rw [hid, ← hoptions]
    · rw [get?_partitionMap h.uuid_isSome, find?_reverse_mountables hcount, hfind,
        Option.bind_some, hid]
  partition_uuid hgpt p hp := by
    rw [h.type_eq] at hgpt
    refine forall_mem_left_of_forall₂ (P := fun p => p.uuid.isSome = true) (fun p' p hp' => ?_)
      h.partitions p hp
    obtain ⟨id, hid⟩ := hp'.uuid_eq
    rw [hid, hgpt]
    rfl

end Table

/-! ## Finished tables -/

/-- No component of a DOS table has an identifier. -/
lemma Component.uuid_draft_dos (defaultType : FsType) (k : Component) :
    (k.draft .dos defaultType).uuid = none := by
  rw [uuid_draft]
  cases k <;> rfl

namespace Table

/-- Finishing a DOS table gives identifiers to none of its partitions. -/
lemma IsFinished.uuid_eq_none {t d : Table} {required : PathMap Nat} {minimum : Nat}
    (h : t.IsFinished d required minimum) (hdos : d.type = .dos)
    (hd : ∀ p ∈ d.partitions, p.uuid = none) : ∀ p ∈ t.partitions, p.uuid = none := by
  refine forall_mem_of_forall₂ (fun p' p hp' hp => ?_) h.isRealizationOf
    fun p hp => hd p ((perm_rootLast _).mem_iff.mp hp)
  obtain ⟨id, hid⟩ := hp'.uuid_eq
  rw [hid, hdos]
  exact hp

/-- **Finished tables answer every question.**  In a table that is planned from a customization, and
in one from a template, all that is mounted has an identifier and is in the partition map, every
mountpoint has a size, and the kernel is led to a root.  Each partition has an identifier in a GPT
and, when the table is planned, none in a DOS table. -/
theorem finished_answersQueries :
    (∀ (c : Option Customization) (options : Options) (stream stream' : ByteStream) (t : Table),
      Customization.plan c options stream = .ok (t, stream') →
        t.AnswersQueries ∧ (t.type = .dos → ∀ p ∈ t.partitions, p.uuid = none))
    ∧ ∀ (template : Table) (requests : List FilesystemRequest) (size : Nat) (mode : SizingMode)
        (required : PathMap Nat) (stream stream' : ByteStream) (t : Table),
      template.fromTemplate requests size mode required stream = .ok (t, stream') →
        t.AnswersQueries := by
  constructor
  · intro c options stream stream' t h
    obtain ⟨hnodup, defaultType, -, hfinished⟩ := Customization.isFinished_of_plan h
    obtain ⟨root, hroot⟩ := Customization.exists_filter_holdsRoot hnodup options.bootMode
    refine ⟨hfinished.identified.answersQueries ?_, fun hdos => ?_⟩
    · -- just one component holds the root, and it is kept
      obtain ⟨hcomponent, hholds⟩ := Customization.mem_of_filter_holdsRoot hroot
      rw [hfinished.mountpoints_perm.mem_iff, Customization.mountpoints_blueprint]
      exact List.mem_flatMap.mpr ⟨root, hcomponent, List.contains_iff_mem.mp hholds⟩
    · rw [hfinished.eq_and_uuid_eq.1] at hdos
      refine hfinished.uuid_eq_none hdos fun p hp => ?_
      rw [Customization.partitions_blueprint] at hp
      obtain ⟨k, -, rfl⟩ := List.mem_map.mp hp
      rw [← Customization.type_blueprint (c.getD {}) options defaultType, hdos]
      exact k.uuid_draft_dos defaultType
  · intro template requests size mode required stream stream' t h
    obtain ⟨-, root, hroot, hfinished⟩ := isFinished_of_fromTemplate h
    refine hfinished.identified.answersQueries ?_
    have hmem : "/" ∈ template.mountpoints := (find?_isSome_iff _ _).mp (by rw [hroot]; rfl)
    rw [hfinished.mountpoints_perm.mem_iff, mountpoints_adapted]
    exact List.mem_append_left _ hmem

/-- A root on a logical volume of a DOS table, and one on a subvolume of a template. -/
theorem finished_answersQueries_of_volumes :
    (∃ t stream', Customization.plan
        (some { lvm := some { volumeGroups := [{ name := "vg", logicalVolumes :=
          [{ filesystem := { mountpoint := "/srv" } },
            { filesystem := { mountpoint := "/" } }] }] } })
        { defaultFsType := some .xfs, bootMode := .hybrid, tableType := some .dos }
        (.counting 0) = .ok (t, stream')
      ∧ t.AnswersQueries ∧ t.type = .dos ∧ (∀ p ∈ t.partitions, p.uuid = none)
      ∧ t.kernelOptions = .ok
          ["root=UUID=40414243-4445-4647-8849-4a4b4c4d4e4f", "rd.lvm.lv=vg/rootlv"])
    ∧ ∃ t stream', Table.fromTemplate
        { type := .gpt, partitions := [{ size := 1048576, type := "a", payload := some (.btrfs
          { subvolumes := [{ name := "var", mountpoint := "/var", uuid := some "x" },
            { name := "root", mountpoint := "/" }] }) }] }
        [{ mountpoint := "/srv" }] 0 .grow .empty (.counting 0) = .ok (t, stream')
      ∧ t.AnswersQueries
      ∧ t.kernelOptions = .ok
          ["root=UUID=40414243-4445-4647-8849-4a4b4c4d4e4f", "rootflags=subvol=root"] := by
  constructor
  · refine ⟨_, _, rfl, ?_⟩
    obtain ⟨hanswers, hdos⟩ := finished_answersQueries.1
      (some { lvm := some { volumeGroups := [{ name := "vg", logicalVolumes :=
        [{ filesystem := { mountpoint := "/srv" } },
          { filesystem := { mountpoint := "/" } }] }] } })
      { defaultFsType := some .xfs, bootMode := .hybrid, tableType := some .dos }
      (.counting 0) _ _ rfl
    exact ⟨hanswers, rfl, hdos rfl, by decide +kernel⟩
  · refine ⟨_, _, rfl, ?_⟩
    have hanswers := finished_answersQueries.2
      { type := .gpt, partitions := [{ size := 1048576, type := "a", payload := some (.btrfs
        { subvolumes := [{ name := "var", mountpoint := "/var", uuid := some "x" },
          { name := "root", mountpoint := "/" }] }) }] }
      [{ mountpoint := "/srv" }] 0 .grow .empty (.counting 0) _ _ rfl
    exact ⟨hanswers, by decide +kernel⟩

end Table
end DiskPlan
