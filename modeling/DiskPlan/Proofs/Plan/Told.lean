import DiskPlan.Proofs.Plan.Composition
import DiskPlan.Proofs.Plan.Requirements

/-!
# The sizes that a planned table tells

What a planned table answers when it is asked for the size of a mountpoint, read off the components
of the plan.  A logical volume has a size of its own, and everything else has that of its partition,
which subvolumes share.  A partition is granted its room, but for the last one, that of the root: it
takes what is left of the table (`Customization.granted`).  So the answers are settled by the
components and by the size of the table, and nothing in them tells where a partition lies
(`Customization.told_of_isFinished`).
-/
namespace DiskPlan

/-! ## What is told -/

/-- The mountpoints of a payload with the sizes that they have on a partition of the given size. -/
def Payload.told (size : Nat) : Payload → List (String × Nat)
  | .filesystem fs => fs.mountpoint.toList.map fun k => (k, size)
  | .lvm group =>
    group.logicalVolumes.filterMap fun v => v.payload.mountpoint.map fun k => (k, v.size)
  | .btrfs volume => volume.subvolumes.map fun s => (s.mountpoint, s.size.getD size)

/-- The mountpoints of a partition with their sizes. -/
def Partition.told (p : Partition) : List (String × Nat) := p.payload.elim [] (·.told p.size)

/-- The mountpoints of a table with their sizes, in the order of the disk. -/
def Table.told (t : Table) : List (String × Nat) := t.partitions.flatMap (·.told)

lemma Partition.map_mountables (p : Partition) :
    (p.mountables.map fun m => (m.mountpoint, m.size)) = p.told := by
  rw [mountables, told]
  rcases p.payload with _ | ⟨fs | group | volume⟩
  · rfl
  · rcases hfs : fs.mountpoint with _ | k
    · simp [Payload.told, hfs]
    · simp [Payload.told, hfs, Mountable.mountpoint, Mountable.size]
  · dsimp only [Option.elim_some, Payload.told]
    induction group.logicalVolumes with
    | nil => rfl
    | cons v vs ih =>
      rcases hv : v.payload.mountpoint with _ | k
      · rw [List.filter_cons_of_neg (by simp [hv]), List.filterMap_cons, hv, ih]
        rfl
      · rw [List.filter_cons_of_pos (by simp [hv]), List.filterMap_cons, hv, List.map_cons,
          List.map_cons, ih]
        simp [Mountable.mountpoint, Mountable.size, hv]
  · exact List.map_map

/-- The first size that is told for a mountpoint is the answer. -/
lemma Table.sizeOf_eq (t : Table) (k : String) :
    t.sizeOf k = (t.told.lookup k).elim (.error (.mountpointNotFound k)) .ok := by
  have htold : t.told = t.mountables.map fun m => (m.mountpoint, m.size) := by
    rw [told, mountables, List.map_flatMap]
    simp only [Partition.map_mountables]
  have hlookup := PathMap.lookup_filterMap (f := Mountable.mountpoint)
    (g := fun m => some m.size) (fun m (_ : m ∈ t.mountables) => rfl) k
  simp only [Option.map_some, List.filterMap_eq_map'] at hlookup
  rw [htold, hlookup, sizeOf, find?]
  rcases hfind : t.mountables.find? fun m => m.mountpoint == k with _ | m
  · rw [hfind]
    rfl
  · rw [hfind]
    rfl

/-! ## Identification -/

lemma Payload.IsIdentificationOf.told_eq {payload' payload : Payload}
    (h : payload'.IsIdentificationOf payload) (size : Nat) :
    payload'.told size = payload.told size := by
  cases h with
  | filesystem hfs =>
    obtain ⟨id, rfl⟩ := hfs
    rfl
  | lvm hgroup =>
    have hvolumes := congrArg (List.filterMap id) (map_eq_of_forall₂
      (f := fun v : LogicalVolume => v.payload.mountpoint.map fun k => (k, v.size))
      (g := fun v : LogicalVolume => v.payload.mountpoint.map fun k => (k, v.size))
      (fun v' v hv => by
        obtain ⟨hv', id, hid⟩ := hv
        rw [hid] at hv'
        rw [hv']) hgroup.volumes)
    rw [List.filterMap_map, List.filterMap_map] at hvolumes
    exact hvolumes
  | btrfs hvolume =>
    obtain ⟨id, rfl⟩ := hvolume
    exact List.map_map

lemma Partition.IsIdentificationOf.told_eq {type : TableType} {p' p : Partition}
    (h : p'.IsIdentificationOf type p) : p'.told = p.told := by
  rw [told, told, h.size_eq]
  obtain ⟨hp', hp⟩ | ⟨payload', payload, hp', hp, hpayload⟩ := h.payload_cases
  · rw [hp', hp]
  · rw [hp', hp]
    exact hpayload.told_eq p.size

/-- Identification tells no other sizes. -/
lemma Table.IsIdentificationOf.told_eq {t' t : Table} (h : t'.IsIdentificationOf t) :
    t'.told = t.told := by
  rw [told, told, List.flatMap_def, List.flatMap_def,
    map_eq_of_forall₂ (fun _ _ hp => hp.told_eq) h.partitions]

/-! ## Placement -/

/-- What is told of a partition that is placed with the given size, wherever it is. -/
def Partition.toldAt (size : Nat) (p : Partition) : List (String × Nat) :=
  { p with size : Partition }.reportSize.told

lemma Partition.told_placed (p : Partition) (start size : Nat) :
    { p with start, size : Partition }.reportSize.told = p.toldAt size := by
  rw [toldAt]
  unfold reportSize
  dsimp only
  split
  · rfl
  · rfl

/-- All partitions but the last have their room, and the last one ends at the given place. -/
lemma stretchLast_lay_concat (stop start : Nat) (ps : List Partition) (p : Partition) :
    stretchLast stop (lay start (ps ++ [p])) = lay start ps
      ++ [{ p with start := start + roomOf ps, size := stop - (start + roomOf ps) }] := by
  induction ps generalizing start with
  | nil => rfl
  | cons q qs ih =>
    have hne : qs ++ [p] ≠ [] := List.append_ne_nil_of_right_ne_nil _ (List.cons_ne_nil _ _)
    rw [List.cons_append, stretchLast_lay_cons, if_neg hne, ih, lay, roomOf_cons, Nat.add_assoc,
      List.cons_append]

lemma flatMap_told_lay (start : Nat) (ps : List Partition) :
    ((lay start ps).map (·.reportSize)).flatMap (·.told) =
      ps.flatMap fun p => p.toldAt p.room := by
  induction ps generalizing start with
  | nil => rfl
  | cons p ps ih => rw [lay, List.map_cons, List.flatMap_cons, ih, p.told_placed, List.flatMap_cons]

/-- The last partition of a layout has what is left up to the footer. -/
lemma Table.told_laidOut {t : Table} {front : List Partition} {last : Partition}
    (h : rootLast t.partitions = front ++ [last]) (minimum : Nat) :
    (t.laidOut minimum).told = (front.flatMap fun p => p.toldAt p.room)
      ++ last.toldAt (t.settledSize minimum - t.footer - (t.firstStart + roomOf front)) := by
  rw [told, partitions_laidOut, h, stretchLast_lay_concat, List.map_append, List.flatMap_append,
    flatMap_told_lay, List.map_singleton, List.flatMap_singleton, Partition.told_placed]

/-! ## Components -/

namespace Component

/-- The mountpoints of a component with their sizes, when its partition has the given size and each
mountpoint needs the given size. -/
def told (need : String → Nat) (size : Nat) : Component → List (String × Nat)
  | .biosBoot => []
  | .efiSystem => [("/boot/efi", size)]
  | .filesystem r => [(r.mountpoint, size)]
  | .group r => r.logicalVolumes.map fun v => (v.filesystem.mountpoint, v.sizeFor need)
  | .volume r => r.subvolumes.map fun s => (s.mountpoint, size)

lemma map_fst_told (need : String → Nat) (size : Nat) (k : Component) :
    (k.told need size).map (·.1) = k.mountpoints := by
  cases k with
  | biosBoot => rfl
  | efiSystem => rfl
  | filesystem r => rfl
  | group r => exact List.map_map
  | volume r => exact List.map_map

variable {need : String → Nat} {type : TableType} {defaultType : FsType}

lemma filterMap_outlineVolumes (taken : List String) (rs : List LogicalVolumeRequest) :
    ((outlineVolumes need defaultType taken rs).filterMap fun v =>
        v.payload.mountpoint.map fun k => (k, v.size)) =
      rs.map fun r => (r.filesystem.mountpoint, r.sizeFor need) := by
  induction rs generalizing taken with
  | nil => rfl
  | cons r rs ih =>
    rw [outlineVolumes, List.filterMap_cons, List.map_cons, ih]
    rfl

/-- The subvolumes of a request have no sizes of their own, so they tell that of the volume. -/
lemma told_reportSize_volume (r : BtrfsVolumeRequest) (size : Nat) :
    (Payload.btrfs (r.volume.reportSize size)).told size =
      r.subvolumes.map fun s => (s.mountpoint, size) := by
  have hreports : (r.volume.reportSize size).Reports size :=
    BtrfsVolume.reports_reportSize (presetsRootOnly_draft .gpt .ext4 (.volume r) _ rfl) size
  have hmountpoints : (r.volume.reportSize size).subvolumes.map (·.mountpoint) =
      r.subvolumes.map (·.mountpoint) := by
    rw [BtrfsVolume.map_mountpoint_reportSize, BtrfsVolumeRequest.volume, List.map_map]
    rfl
  have hpairs := congrArg (List.map fun k => (k, size)) hmountpoints
  rw [List.map_map, List.map_map] at hpairs
  refine Eq.trans ?_ hpairs
  exact List.map_congr_left fun s hs => by rw [hreports s hs]; rfl

/-- A draft that has grown tells what its component does. -/
lemma toldAt_grown_draft (k : Component) (sizes : PathMap Nat) (size : Nat) :
    ((k.draft type defaultType).grown sizes).toldAt size = k.told sizes.amount size := by
  obtain ⟨declared, heq, -⟩ := @grown_draft_eq type defaultType k sizes
  rw [Partition.toldAt, heq]
  cases k with
  | biosBoot => rfl
  | efiSystem => rfl
  | filesystem r => rfl
  | group r => exact filterMap_outlineVolumes [] r.logicalVolumes
  | volume r => exact told_reportSize_volume r size

end Component

/-! ## Plans -/

namespace Customization

variable {c : Customization} {options : Options} {defaultType : FsType}

/-- The size of the partition with the root: what the header, the footer and all others leave of the
table. -/
def rootSize (c : Customization) (options : Options) (defaultType : FsType) : Nat :=
  let grown := (c.blueprint options defaultType).grown options.requiredSizes
  let others := (c.components options.bootMode).filter (!·.holdsRoot)
  grown.settledSize c.minsize - grown.footer
    - (grown.firstStart + Size.total (·.room (c.owed options)) others)

/-- The size that the partition of a component is granted. -/
def granted (c : Customization) (options : Options) (defaultType : FsType) (k : Component) : Nat :=
  if k.holdsRoot then c.rootSize options defaultType else k.room (c.owed options)

lemma amount_chargesOf_blueprint
    (habs : ∀ e ∈ options.requiredSizes.entries, Path.isAbsolute e.1 = true) :
    ((c.blueprint options defaultType).chargesOf options.requiredSizes).amount =
      c.owed options := by
  rw [Table.amount_chargesOf _ habs, mountpoints_blueprint, owed]

/-- **A planned table tells what its components do**, each with the size that it is granted, and
those of the root last. -/
lemma told_of_isFinished {t : Table} {root : Component}
    (habs : ∀ e ∈ options.requiredSizes.entries, Path.isAbsolute e.1 = true)
    (h : t.IsFinished (c.blueprint options defaultType) options.requiredSizes c.minsize)
    (hroot : (c.components options.bootMode).filter (·.holdsRoot) = [root]) :
    t.told = ((c.components options.bootMode).filter (!·.holdsRoot) ++ [root]).flatMap fun k =>
      k.told (c.owed options) (c.granted options defaultType k) := by
  have howed := @amount_chargesOf_blueprint c options defaultType habs
  have hlast := rootLast_grown_blueprint options defaultType
    ((c.blueprint options defaultType).chargesOf options.requiredSizes) hroot
  rw [← Table.partitions_grown, List.map_append, List.map_singleton] at hlast
  obtain ⟨-, hholds⟩ := mem_of_filter_holdsRoot hroot
  rw [h.identified.told_eq, Table.told_laidOut hlast, List.flatMap_append, List.flatMap_singleton,
    List.flatMap_map, Component.toldAt_grown_draft, roomOf, Size.total_map, howed]
  simp only [Component.toldAt_grown_draft, Component.room_grown_draft, howed]
  refine congrArg₂ (· ++ ·) (List.flatMap_congr fun k hk => ?_) ?_
  · have hother : k.holdsRoot = false := by simpa using (List.mem_filter.mp hk).2
    rw [granted, if_neg (by simp [hother])]
  · rw [granted, if_pos hholds, rootSize]

end Customization
end DiskPlan
