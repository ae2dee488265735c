import DiskPlan.Proofs.Mountpoints.Kept

/-!
# Two walks over the mountpoints

The mountpoints of a table are listed twice: partition by partition, and as those of its mountables.
Both walks skip what is not mounted and go in the same order, so the first mountable at a mountpoint
is on the first partition that mounts something there (`Table.find?_eq_some_iff`), and the one walk
can be used to choose a partition and the other to ask for what is on it
(`Table.mountpoint_walks_agree`).
-/
namespace DiskPlan

/-! ## What is found first -/

namespace Partition

variable {p : Partition}

/-- A partition mounts something where one of its mountables is. -/
lemma find?_mountables_isSome_iff {k : String} :
    (p.mountables.find? (·.mountpoint == k)).isSome = true ↔ p.mounts k = true := by
  rw [List.find?_isSome, mounts, List.contains_iff_mem, ← p.map_mountpoint_mountables, List.mem_map]
  simp only [beq_iff_eq]

lemma find?_mountables_eq_none_iff {k : String} :
    p.mountables.find? (·.mountpoint == k) = none ↔ p.mounts k = false := by
  rw [← Option.not_isSome_iff_eq_none, find?_mountables_isSome_iff, Bool.not_eq_true]

lemma partition_of_mem_mountables {m : Mountable} (h : m ∈ p.mountables) : m.partition = p := by
  rcases hp : p.payload with _ | ⟨fs | group | volume⟩ <;> rw [mountables, hp] at h
  · cases h
  · obtain ⟨-, rfl⟩ : fs.mountpoint.isSome ∧ m = .filesystem p fs := by simpa using h
    rfl
  · obtain ⟨v, -, rfl⟩ := List.mem_map.mp h
    rfl
  · obtain ⟨s, -, rfl⟩ := List.mem_map.mp h
    rfl

end Partition

namespace Table

variable {t : Table} {k : String} {i : Nat} {m : Mountable}

/-- `m` is the first mountable at a mountpoint, and it is on the partition with index `i`: there it
is the first that is mounted at the mountpoint, and no partition ahead mounts anything there. -/
structure IsFirstAt (t : Table) (mountpoint : String) (i : Nat) (m : Mountable) : Prop where
  partition : t.partitions[i]? = some m.partition
  first : m.partition.mountables.find? (·.mountpoint == mountpoint) = some m
  ahead : ∀ p ∈ t.partitions.take i, p.mounts mountpoint = false

/-- **What is found at a mountpoint is on the first partition that mounts something there.** -/
lemma find?_eq_some_iff : t.find? k = some m ↔ ∃ i, t.IsFirstAt k i m := by
  rw [find?, mountables, List.find?_flatMap, List.findSome?_eq_some_iff]
  simp only [Partition.find?_mountables_eq_none_iff]
  constructor
  · rintro ⟨ahead, p, behind, hsplit, hfound, hahead⟩
    obtain rfl : m.partition = p :=
      Partition.partition_of_mem_mountables (List.mem_of_find?_eq_some hfound)
    exact ⟨ahead.length, by simp [hsplit], hfound, by simpa [hsplit] using hahead⟩
  · rintro ⟨i, hpartition, hfound, hahead⟩
    obtain ⟨hi, hget⟩ := List.getElem?_eq_some_iff.mp hpartition
    refine ⟨t.partitions.take i, m.partition, t.partitions.drop (i + 1), ?_, hfound, hahead⟩
    rw [← hget, List.getElem_cons_drop, List.take_append_drop]

/-- The first partition that mounts something at a mountpoint has the first mountable there. -/
lemma findIdx?_mounts_eq_some_iff :
    t.partitions.findIdx? (·.mounts k) = some i ↔ ∃ m, t.IsFirstAt k i m := by
  rw [List.findIdx?_eq_some_iff_getElem]
  constructor
  · rintro ⟨hi, hmounts, hahead⟩
    obtain ⟨m, hfound⟩ :=
      Option.isSome_iff_exists.mp (Partition.find?_mountables_isSome_iff.mpr hmounts)
    have hpartition := Partition.partition_of_mem_mountables (List.mem_of_find?_eq_some hfound)
    refine ⟨m, by rw [hpartition, List.getElem?_eq_getElem hi], hpartition ▸ hfound, ?_⟩
    intro p hp
    obtain ⟨j, hj, rfl⟩ := List.mem_take_iff_getElem.mp hp
    simpa using hahead j (by omega)
  · rintro ⟨m, hpartition, hfound, hahead⟩
    obtain ⟨hi, hget⟩ := List.getElem?_eq_some_iff.mp hpartition
    refine ⟨hi, ?_, fun j hj => ?_⟩
    · rw [hget, ← Partition.find?_mountables_isSome_iff, hfound, Option.isSome_some]
    · have hmem : t.partitions[j] ∈ t.partitions.take i :=
        List.mem_take_iff_getElem.mpr ⟨j, by omega, rfl⟩
      simp [hahead _ hmem]

/-- The place of the root is that of the partition of what is found at `/`. -/
lemma rootIndex?_eq_some_iff :
    t.rootIndex? = some i ↔ ∃ m, t.find? "/" = some m ∧ t.IsFirstAt "/" i m := by
  rw [rootIndex?, findIdx?_mounts_eq_some_iff]
  exact exists_congr fun m => ⟨fun h => ⟨find?_eq_some_iff.mpr ⟨i, h⟩, h⟩, And.right⟩

end Table

/-! ## The partition map -/

namespace Mountable

variable {m : Mountable} {k uuid : String}

/-- What a mountable adds to the partition map, if it has an identifier. -/
def mapping? (m : Mountable) : Option (String × String) :=
  m.uuid.map fun uuid => (m.mountpoint, uuid)

lemma mapping?_eq_some_iff :
    m.mapping? = some (k, uuid) ↔ m.mountpoint = k ∧ m.uuid = some uuid := by
  simp [mapping?, and_comm]

/-- Mountables add nothing at a mountpoint when those that are there have no identifier. -/
lemma forall_mapping_ne_iff {ms : List Mountable} :
    (∀ e ∈ ms.filterMap mapping?, e.1 ≠ k) ↔ ∀ m ∈ ms, m.mountpoint = k → m.uuid = none := by
  constructor
  · intro h m hm hk
    rcases huuid : m.uuid with _ | uuid
    · rfl
    · have hmapping : m.mapping? = some (k, uuid) := mapping?_eq_some_iff.mpr ⟨hk, huuid⟩
      exact absurd rfl (h (k, uuid) (List.mem_filterMap.mpr ⟨m, hm, hmapping⟩))
  · rintro h ⟨k', uuid⟩ he rfl
    obtain ⟨m, hm, hmapping⟩ := List.mem_filterMap.mp he
    obtain ⟨hk, huuid⟩ := mapping?_eq_some_iff.mp hmapping
    rw [h m hm hk] at huuid
    cases huuid

end Mountable

namespace Table

variable {t : Table} {k : String}

/-- The partition map has the identifier of the last mountable that has one. -/
lemma get?_partitionMap_eq_some_iff {uuid : String} :
    t.partitionMap.get? k = some uuid ↔
      ∃ front m back, t.mountables = front ++ m :: back ∧ m.mountpoint = k ∧ m.uuid = some uuid
        ∧ ∀ m' ∈ back, m'.mountpoint = k → m'.uuid = none := by
  have hmap : t.partitionMap = .ofList (t.mountables.filterMap (·.mapping?)) := rfl
  rw [hmap, PathMap.get?_ofList_eq_some_iff]
  constructor
  · rintro ⟨front, back, hpairs, hback⟩
    obtain ⟨before, rest, hbefore, -, hrest⟩ := List.filterMap_eq_append_iff.mp hpairs
    obtain ⟨skipped, m, after, rfl, -, hm, rfl⟩ := List.filterMap_eq_cons_iff.mp hrest
    obtain ⟨hk, huuid⟩ := Mountable.mapping?_eq_some_iff.mp hm
    exact ⟨before ++ skipped, m, after, by simp [hbefore], hk, huuid,
      Mountable.forall_mapping_ne_iff.mp hback⟩
  · rintro ⟨front, m, back, hsplit, hk, huuid, hback⟩
    have hmapping : m.mapping? = some (k, uuid) := Mountable.mapping?_eq_some_iff.mpr ⟨hk, huuid⟩
    refine ⟨front.filterMap (·.mapping?), back.filterMap (·.mapping?), ?_,
      Mountable.forall_mapping_ne_iff.mpr hback⟩
    rw [hsplit, List.filterMap_append, List.filterMap_cons_some hmapping]

lemma mem_keys_partitionMap_iff :
    k ∈ t.partitionMap.keys ↔ ∃ m ∈ t.mountables, m.mountpoint = k ∧ m.uuid.isSome = true := by
  have hmap : t.partitionMap = .ofList (t.mountables.filterMap (·.mapping?)) := rfl
  rw [hmap, PathMap.mem_keys_ofList_iff]
  constructor
  · rintro ⟨⟨k', uuid⟩, he, rfl⟩
    obtain ⟨m, hm, hmapping⟩ := List.mem_filterMap.mp he
    obtain ⟨hk, huuid⟩ := Mountable.mapping?_eq_some_iff.mp hmapping
    exact ⟨m, hm, hk, by rw [huuid, Option.isSome_some]⟩
  · rintro ⟨m, hm, hk, huuid⟩
    obtain ⟨uuid, huuid⟩ := Option.isSome_iff_exists.mp huuid
    have hmapping : m.mapping? = some (k, uuid) := Mountable.mapping?_eq_some_iff.mpr ⟨hk, huuid⟩
    exact ⟨(k, uuid), List.mem_filterMap.mpr ⟨m, hm, hmapping⟩, rfl⟩

/-! ## The queries -/

lemma sizeOf_eq_ok_iff {size : Nat} :
    t.sizeOf k = .ok size ↔ ∃ m, t.find? k = some m ∧ m.size = size := by
  rw [sizeOf]
  rcases t.find? k with _ | m
  · simp
  · simp

lemma sizeOf_eq_error_iff {e : PlanError} :
    t.sizeOf k = .error e ↔ t.find? k = none ∧ e = .mountpointNotFound k := by
  rw [sizeOf]
  rcases t.find? k with _ | m
  · simp [eq_comm]
  · simp

/-- **The two walks over the mountpoints of a table agree.**  The mountables are mounted where the
partitions mount something, in the same order.  Something is found at a mountpoint when a partition
mounts something there, and it is then on the first of these; the place of the root is that of the
partition of what is found at `/`.  A mountpoint has a size when something is found there, and else
it is reported as missing.  In the partition map are the mountpoints of the mountables with an
identifier, each with that of the last of these there. -/
theorem mountpoint_walks_agree (t : Table) :
    t.mountables.map (·.mountpoint) = t.partitions.flatMap (·.mountpoints)
      ∧ (∀ k, (t.find? k).isSome = true ↔ ∃ p ∈ t.partitions, p.mounts k = true)
      ∧ (∀ k m, t.find? k = some m ↔ ∃ i, t.IsFirstAt k i m)
      ∧ (∀ i, t.rootIndex? = some i ↔ ∃ m, t.find? "/" = some m ∧ t.IsFirstAt "/" i m)
      ∧ (∀ k size, t.sizeOf k = .ok size ↔ ∃ m, t.find? k = some m ∧ m.size = size)
      ∧ (∀ k e, t.sizeOf k = .error e ↔ t.find? k = none ∧ e = .mountpointNotFound k)
      ∧ (∀ k, k ∈ t.partitionMap.keys ↔
        ∃ m ∈ t.mountables, m.mountpoint = k ∧ m.uuid.isSome = true)
      ∧ ∀ k uuid, t.partitionMap.get? k = some uuid ↔
        ∃ front m back, t.mountables = front ++ m :: back ∧ m.mountpoint = k ∧ m.uuid = some uuid
          ∧ ∀ m' ∈ back, m'.mountpoint = k → m'.uuid = none := by
  refine ⟨t.map_mountpoint_mountables, fun k => ?_, fun k m => find?_eq_some_iff,
    fun i => rootIndex?_eq_some_iff, fun k size => sizeOf_eq_ok_iff,
    fun k e => sizeOf_eq_error_iff, fun k => mem_keys_partitionMap_iff,
    fun k uuid => get?_partitionMap_eq_some_iff⟩
  rw [find?_isSome_iff, mountpoints, List.mem_flatMap]
  simp only [Partition.mounts, List.contains_iff_mem]

end Table
end DiskPlan
