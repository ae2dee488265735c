import DiskPlan.Layout.FromTemplate
import DiskPlan.Proofs.Growth.Reached
import DiskPlan.Proofs.Mountpoints.Unique

/-!
# Adapted templates

What a template becomes before it is grown for directories: requests for mountpoints that it has are
sizes that its partitions grow to, and each of the others is one more partition at the end.  The
requests are taken up one after the other, and each of them sees the partitions that were added for
those before it; as the mountpoints of requests are distinct, that makes no difference
(`foldl_take_eq`).
-/
namespace DiskPlan

open Size (limit)

/-! ## Taking up requests -/

namespace Table

/-- The requests for mountpoints that a table has. -/
def resizing (t : Table) (requests : List FilesystemRequest) : List FilesystemRequest :=
  requests.filter (·.mountpoint ∈ t.mountpoints)

/-- The requests for mountpoints that a table lacks. -/
def additions (t : Table) (requests : List FilesystemRequest) : List FilesystemRequest :=
  requests.filter (·.mountpoint ∉ t.mountpoints)

section Requests

variable {t : Table} {r : FilesystemRequest} {rs : List FilesystemRequest}

lemma requests_cons_of_mem (h : r.mountpoint ∈ t.mountpoints) :
    t.additions (r :: rs) = t.additions rs ∧ t.resizing (r :: rs) = r :: t.resizing rs := by
  simp [additions, resizing, h]

lemma requests_cons_of_notMem (h : r.mountpoint ∉ t.mountpoints) :
    t.additions (r :: rs) = r :: t.additions rs ∧ t.resizing (r :: rs) = t.resizing rs := by
  simp [additions, resizing, h]

lemma requests_congr {t' : Table}
    (h : ∀ r ∈ rs, r.mountpoint ∈ t'.mountpoints ↔ r.mountpoint ∈ t.mountpoints) :
    t'.additions rs = t.additions rs ∧ t'.resizing rs = t.resizing rs := by
  constructor
  · exact List.filter_congr fun r hr => by simp [h r hr]
  · exact List.filter_congr fun r hr => by simp [h r hr]

end Requests

lemma mountpoints_add (t : Table) (p : Partition) :
    (t.add p).mountpoints = t.mountpoints ++ p.mountpoints := by
  rw [mountpoints, add, List.flatMap_append, List.flatMap_singleton, mountpoints]

end Table

/-- Sizes with those that are asked for put in. -/
def insertSizes (sizes : PathMap Nat) (requests : List FilesystemRequest) : PathMap Nat :=
  requests.foldl (fun sizes r => sizes.insert r.mountpoint r.minsize) sizes

lemma amount_insertSizes_of_notMem {sizes : PathMap Nat} {requests : List FilesystemRequest}
    {k : String} (h : k ∉ requests.map (·.mountpoint)) :
    (insertSizes sizes requests).amount k = sizes.amount k := by
  induction requests generalizing sizes with
  | nil => rfl
  | cons r rs ih =>
    rw [List.map_cons, List.mem_cons, not_or] at h
    have hinsert := sizes.amount_insert r.mountpoint k r.minsize
    rw [if_neg h.1] at hinsert
    rw [← hinsert]
    exact ih h.2

lemma amount_insertSizes {sizes : PathMap Nat} {requests : List FilesystemRequest}
    (hnodup : (requests.map (·.mountpoint)).Nodup) {r : FilesystemRequest} (hr : r ∈ requests) :
    (insertSizes sizes requests).amount r.mountpoint = r.minsize := by
  induction requests generalizing sizes with
  | nil => cases hr
  | cons s ss ih =>
    rw [List.map_cons, List.nodup_cons] at hnodup
    rcases List.mem_cons.mp hr with rfl | hr
    · have hinsert := sizes.amount_insert r.mountpoint r.mountpoint r.minsize
      rw [if_pos rfl] at hinsert
      rw [← hinsert]
      exact amount_insertSizes_of_notMem hnodup.1
    · exact ih hnodup.2 hr

namespace Adaptation

/-- What becomes of an adaptation when requests are taken up all at once. -/
def takeAll (rootType : FsType) (a : Adaptation) (requests : List FilesystemRequest) :
    Adaptation where
  table := { a.table with partitions := a.table.partitions
    ++ (a.table.additions requests).map (·.partition a.table.type rootType) }
  sizes := insertSizes a.sizes (a.table.resizing requests)

/-- A request that is taken up first changes nothing for those with other mountpoints. -/
lemma takeAll_take (rootType : FsType) (a : Adaptation) {r : FilesystemRequest}
    {rs : List FilesystemRequest} (h : r.mountpoint ∉ rs.map (·.mountpoint)) :
    (a.take rootType r).takeAll rootType rs = a.takeAll rootType (r :: rs) := by
  by_cases hmem : r.mountpoint ∈ a.table.mountpoints
  · obtain ⟨hadditions, hresizing⟩ := Table.requests_cons_of_mem hmem
    rw [take, if_pos ((a.table.find?_isSome_iff _).mpr hmem), takeAll, takeAll, hadditions,
      hresizing]
    rfl
  · obtain ⟨hadditions, hresizing⟩ := Table.requests_cons_of_notMem hmem
    -- the partition that is added brings no mountpoint that a later request asks for
    have hsame : ∀ s ∈ rs, s.mountpoint ∈
        (a.table.add (r.partition a.table.type rootType)).mountpoints ↔
          s.mountpoint ∈ a.table.mountpoints := by
      intro s hs
      have hne : s.mountpoint ≠ r.mountpoint := by
        intro heq
        exact h (heq ▸ List.mem_map_of_mem hs)
      rw [Table.mountpoints_add, r.mountpoints_partition, List.mem_append, List.mem_singleton,
        or_iff_left hne]
    obtain ⟨hadditions', hresizing'⟩ := Table.requests_congr hsame
    rw [take, if_neg (by rwa [a.table.find?_isSome_iff]), takeAll, takeAll, hadditions,
      hresizing, hadditions', hresizing', Table.add, List.map_cons, List.append_assoc]
    rfl

lemma foldl_take_eq (rootType : FsType) {requests : List FilesystemRequest}
    (hnodup : (requests.map (·.mountpoint)).Nodup) (a : Adaptation) :
    requests.foldl (take rootType) a = a.takeAll rootType requests := by
  induction requests generalizing a with
  | nil => simp [takeAll, Table.additions, Table.resizing, insertSizes]
  | cons r rs ih =>
    rw [List.map_cons, List.nodup_cons] at hnodup
    rw [List.foldl_cons, ih hnodup.2, takeAll_take rootType a hnodup.1]

end Adaptation

/-! ## The adapted template -/

namespace Table

/-- The sizes that are asked for what a table has. -/
def sizesFor (t : Table) (requests : List FilesystemRequest) : PathMap Nat :=
  insertSizes .empty (t.resizing requests)

/-- A template with the requests for new mountpoints at the end, grown to the sizes that are asked
for the others. -/
def adapted (template : Table) (rootType : FsType) (requests : List FilesystemRequest) : Table :=
  let added := (template.additions requests).map (·.partition template.type rootType)
  { template.instantiate with
    partitions := (template.partitions ++ added).map (·.grown (template.sizesFor requests)) }

/-- A table from a template is the adapted template, finished. -/
lemma isFinished_of_fromTemplate {template t : Table} {requests : List FilesystemRequest}
    {size : Nat} {mode : SizingMode} {required : PathMap Nat} {stream stream' : ByteStream}
    (h : template.fromTemplate requests size mode required stream = .ok (t, stream')) :
    (requests.map (·.mountpoint)).Nodup ∧ ∃ root, template.find? "/" = some root
      ∧ t.IsFinished (template.adapted root.fsType requests) required size := by
  obtain ⟨placed, hplaced, hresult⟩ := bind_eq_ok_iff.mp h
  obtain ⟨⟨⟩, hvalid, hplaced⟩ := bind_eq_ok_iff.mp hplaced
  have hnodup : (requests.map (·.mountpoint)).Nodup := by
    have hvalid := Customization.nodup_mountpoints_of_validate hvalid
    simpa [Customization.mountpoints, Customization.ofPlain, Customization.plainFilesystems,
      Customization.logicalMountpoints, Customization.subvolumeMountpoints,
      Customization.volumeGroups, Customization.btrfsVolumes] using hvalid
  dsimp only at hplaced
  rcases hroot : template.instantiate.find? "/" with _ | root
  · rw [hroot] at hplaced
    cases hplaced
  · rw [hroot] at hplaced
    obtain ⟨resized, hresized, hplaced⟩ := bind_eq_ok_iff.mp hplaced
    obtain ⟨grown, hgrown, hallocated⟩ := bind_eq_ok_iff.mp hplaced
    -- each step has succeeded, so its result is the exact one
    rw [Adaptation.foldl_take_eq root.fsType hnodup] at hresized
    obtain rfl := (exact_growMountpoints _ _).eq_of_ok hresized
    obtain rfl := (exact_growDirectories _ _).eq_of_ok hgrown
    obtain ⟨-, -, hfit, -, rfl⟩ := allocate_eq_ok_iff.mp hallocated
    have hadapted : ((Adaptation.takeAll root.fsType { table := template.instantiate }
        requests).table.grownTo (Adaptation.takeAll root.fsType { table := template.instantiate }
        requests).sizes) = template.adapted root.fsType requests := rfl
    rw [hadapted] at hfit hresult
    have ht : t = (identify _ |>.run stream).1 := congrArg Prod.fst (Except.ok.inj hresult).symm
    refine ⟨hnodup, root, hroot, hfit, ?_⟩
    rw [ht]
    exact isIdentificationOf_identify _ stream

variable {template : Table} {requests : List FilesystemRequest}

lemma mountpoints_adapted (template : Table) (rootType : FsType)
    (requests : List FilesystemRequest) :
    (template.adapted rootType requests).mountpoints =
      template.mountpoints ++ (template.additions requests).map (·.mountpoint) := by
  have hadded : ((template.additions requests).map
      (·.partition template.type rootType)).flatMap (·.mountpoints) =
      (template.additions requests).map (·.mountpoint) := by
    rw [List.flatMap_map, List.map_eq_flatMap]
    simp only [FilesystemRequest.mountpoints_partition]
  rw [mountpoints, adapted, ← hadded, mountpoints, ← List.flatMap_append]
  simp only [List.flatMap_map, Partition.mountpoints_grown]

lemma mem_mountpoints_adapted (rootType : FsType) {r : FilesystemRequest} (hr : r ∈ requests) :
    r.mountpoint ∈ (template.adapted rootType requests).mountpoints := by
  rw [mountpoints_adapted, List.mem_append]
  by_cases hmem : r.mountpoint ∈ template.mountpoints
  · exact .inl hmem
  · refine .inr (List.mem_map_of_mem ?_)
    exact List.mem_filter.mpr ⟨hr, by simpa using hmem⟩

/-- The partitions that are added hold plain filesystems. -/
lemma presetsRootOnly_adapted (rootType : FsType)
    (h : ∀ p ∈ template.partitions, p.PresetsRootOnly) :
    ∀ p ∈ (template.adapted rootType requests).partitions, p.PresetsRootOnly := by
  intro p hp
  obtain ⟨q, hq, rfl⟩ := List.mem_map.mp hp
  refine Partition.PresetsRootOnly.grown ?_ _
  rcases List.mem_append.mp hq with hq | hq
  · exact h q hq
  · obtain ⟨r, -, rfl⟩ := List.mem_map.mp hq
    intro v hv
    cases hv

/-- The size that is asked for with a request: 1 GiB for a new mountpoint if none is. -/
def askedSize (template : Table) (r : FilesystemRequest) : Nat :=
  if r.mountpoint ∉ template.mountpoints ∧ r.minsize = 0 then 1073741824 else r.minsize

/-- A partition that is added has the size that is asked for. -/
lemma askedSize_of_notMem {r : FilesystemRequest} (h : r.mountpoint ∉ template.mountpoints) :
    template.askedSize r = sizeOrDefault r.minsize := by
  simp only [askedSize, h, not_false_eq_true, true_and]
  rfl

lemma amount_sizesFor (hnodup : (requests.map (·.mountpoint)).Nodup) {r : FilesystemRequest}
    (hr : r ∈ requests) (hmem : r.mountpoint ∈ template.mountpoints) :
    (template.sizesFor requests).amount r.mountpoint = r.minsize := by
  refine amount_insertSizes (hnodup.sublist (List.filter_sublist.map _)) ?_
  exact List.mem_filter.mpr ⟨hr, by simpa using hmem⟩

/-- There is room for the size that is asked for with each request. -/
lemma hasRoom_adapted (rootType : FsType) (hnodup : (requests.map (·.mountpoint)).Nodup)
    {r : FilesystemRequest} (hr : r ∈ requests) :
    ∀ p ∈ (template.adapted rootType requests).partitions,
      p.HasRoom fun k => if k = r.mountpoint then template.askedSize r else 0 := by
  intro p hp
  obtain ⟨q, hq, rfl⟩ := List.mem_map.mp hp
  -- what is not mounted at the mountpoint has nothing to hold for the request
  have hother (hnot : r.mountpoint ∉ q.mountpoints) :
      (q.grown (template.sizesFor requests)).HasRoom
        fun k => if k = r.mountpoint then template.askedSize r else 0 := by
    refine (q.hasRoom_grown (template.sizesFor requests)).mono fun k hk => ?_
    rw [Partition.mountpoints_grown] at hk
    have hne : k ≠ r.mountpoint := fun heq => hnot (heq ▸ hk)
    rw [if_neg hne]
    exact Nat.zero_le _
  by_cases hmem : r.mountpoint ∈ template.mountpoints
  · -- the request is one of the sizes that all partitions have grown to
    have hsize := amount_sizesFor hnodup hr hmem
    refine (q.hasRoom_grown (template.sizesFor requests)).mono fun k hk => ?_
    split
    · next heq =>
      have hasked : template.askedSize r = r.minsize := if_neg fun h => h.1 hmem
      rw [heq, hasked]
      exact Nat.le_of_eq hsize.symm
    · exact Nat.zero_le _
  · rcases List.mem_append.mp hq with hq | hq
    · exact hother fun hnot => hmem (List.mem_flatMap.mpr ⟨q, hq, hnot⟩)
    · -- a partition that is added has room for its own request from the start
      obtain ⟨s, hs, rfl⟩ := List.mem_map.mp hq
      by_cases hsame : r.mountpoint = s.mountpoint
      · have hrs : r = s :=
          List.inj_on_of_nodup_map hnodup hr (List.mem_filter.mp hs).1 hsame
        refine Partition.HasRoom.grown ?_ _
        show (s.filesystem rootType).mountpoint.elim 0 _ ≤ sizeOrDefault s.minsize
        rw [s.mountpoint_filesystem, Option.elim_some, ← hrs]
        refine Nat.le_of_eq ?_
        rw [if_pos rfl, askedSize_of_notMem hmem]
      · refine hother ?_
        rw [s.mountpoints_partition, List.mem_singleton]
        exact hsame

end Table
end DiskPlan
