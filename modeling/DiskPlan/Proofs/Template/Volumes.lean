import DiskPlan.Proofs.Identification.Shared
import DiskPlan.Proofs.Template.Realized

/-!
# Room that subvolumes share in a build

The subvolumes of a btrfs volume share its partition, so what they need is added up.  A build from a
template grows the partition twice, for what the requests ask for its subvolumes and for what their
directories are owed, and each growth adds up its own needs only.  The partition ends with the
larger of the two sums and not with the sum of the larger needs.  So a volume has room for both at
once when, of what is asked for and what is owed, one is the larger on all of its subvolumes
(`fromTemplate_volume_size`); when each of them is the larger on some subvolume, the room can be too
small (`exists_fromTemplate_volume_short`).
-/
namespace DiskPlan

open Size (roundUp)

/-! ## Needs that are added up -/

namespace Size

variable {α : Type} {f g : α → Nat} {as : List α}

lemma total_congr (h : ∀ a ∈ as, f a = g a) : total f as = total g as :=
  Nat.le_antisymm (total_mono fun a ha => Nat.le_of_eq (h a ha))
    (total_mono fun a ha => Nat.le_of_eq (h a ha).symm)

/-- A total of larger values is reached only where they are larger nowhere. -/
lemma le_of_total_max_le (h : total (fun a => max (f a) (g a)) as ≤ total f as) :
    ∀ a ∈ as, g a ≤ f a := by
  induction as with
  | nil => exact List.forall_mem_nil _
  | cons a as ih =>
    have hrest : total f as ≤ total (fun a => max (f a) (g a)) as :=
      total_mono fun a _ => Nat.le_max_left _ _
    simp only [total_cons] at h
    exact List.forall_mem_cons.mpr ⟨by omega, ih (by omega)⟩

end Size

namespace BtrfsVolume

/-- What the subvolumes of a volume need together, when each mountpoint needs the given size. -/
def needOf (need : String → Nat) (v : BtrfsVolume) : Nat :=
  Size.total (fun s => need s.mountpoint) v.subvolumes

/-- Whether of two needs one is the larger on all subvolumes of a volume. -/
def IsOneSided (asked owed : String → Nat) (v : BtrfsVolume) : Prop :=
  (∀ s ∈ v.subvolumes, asked s.mountpoint ≤ owed s.mountpoint)
    ∨ ∀ s ∈ v.subvolumes, owed s.mountpoint ≤ asked s.mountpoint

instance (asked owed : String → Nat) (v : BtrfsVolume) : Decidable (v.IsOneSided asked owed) :=
  inferInstanceAs (Decidable (_ ∨ _))

/-- Only the mountpoints of the subvolumes count. -/
lemma needOf_congr {v v' : BtrfsVolume} (need : String → Nat)
    (h : v'.subvolumes.map (·.mountpoint) = v.subvolumes.map (·.mountpoint)) :
    v'.needOf need = v.needOf need := by
  have hmap (w : BtrfsVolume) :
      w.needOf need = Size.total need (w.subvolumes.map (·.mountpoint)) :=
    (Size.total_map _ _).symm
  rw [hmap, hmap, h]

/-- The larger of two sums is the sum of the larger needs just when one need is the larger one
everywhere. -/
lemma needOf_max_le_iff (asked owed : String → Nat) (v : BtrfsVolume) :
    v.needOf (fun m => max (asked m) (owed m)) ≤ max (v.needOf asked) (v.needOf owed) ↔
      v.IsOneSided asked owed := by
  constructor
  · intro h
    rcases Nat.le_total (v.needOf asked) (v.needOf owed) with hle | hle
    · rw [Nat.max_eq_right hle] at h
      simp only [Nat.max_comm (asked _)] at h
      exact .inl (Size.le_of_total_max_le h)
    · rw [Nat.max_eq_left hle] at h
      exact .inr (Size.le_of_total_max_le h)
  · rintro (h | h)
    · refine Nat.le_trans (Nat.le_of_eq ?_) (Nat.le_max_right _ _)
      exact Size.total_congr fun s hs => Nat.max_eq_right (h s hs)
    · refine Nat.le_trans (Nat.le_of_eq ?_) (Nat.le_max_left _ _)
      exact Size.total_congr fun s hs => Nat.max_eq_left (h s hs)

end BtrfsVolume

/-! ## What is asked for -/

/-- The size that requests ask for at a mountpoint; zero where they ask for none. -/
def askedAt (requests : List FilesystemRequest) (m : String) : Nat :=
  (requests.find? (·.mountpoint = m)).elim 0 (·.minsize)

lemma Table.amount_sizesFor_eq_askedAt {template : Table} {requests : List FilesystemRequest}
    (hnodup : (requests.map (·.mountpoint)).Nodup) {m : String} (hm : m ∈ template.mountpoints) :
    (template.sizesFor requests).amount m = askedAt requests m := by
  rw [askedAt]
  rcases hfind : requests.find? (·.mountpoint = m) with _ | r
  · rw [hfind, Option.elim_none]
    have hnone : m ∉ (template.resizing requests).map (·.mountpoint) := by
      intro hmem
      obtain ⟨r, hr, hrm⟩ := List.mem_map.mp hmem
      exact absurd hrm (by simpa using List.find?_eq_none.mp hfind r (List.mem_filter.mp hr).1)
    exact amount_insertSizes_of_notMem hnone
  · have hrm : r.mountpoint = m := by simpa using List.find?_some hfind
    rw [hfind, Option.elim_some, ← hrm]
    exact amount_sizesFor hnodup (List.mem_of_find?_eq_some hfind) (hrm ▸ hm)

/-! ## Growing a volume twice -/

namespace Partition

variable {p : Partition} {v : BtrfsVolume} {sizes sizes' : PathMap Nat}

lemma payload_grown_eq_btrfs_iff :
    (p.grown sizes).payload = some (.btrfs v) ↔ p.payload = some (.btrfs v) := by
  rw [grown]
  split
  · rfl
  · next fs hfs => simp [hfs]
  · next group hgroup => simp [hgroup]
  · next volume hvolume => simp [hvolume]

lemma size_grown_btrfs (h : p.payload = some (.btrfs v)) :
    (p.grown sizes).size = max p.size (v.needOf sizes.amount) := by
  rw [grown, h]
  rfl

/-- The room of a volume that has grown twice is the larger of the two sums. -/
lemma room_grown_grown_btrfs (h : p.payload = some (.btrfs v)) :
    ((p.grown sizes).grown sizes').room =
      roundUp (max p.size (max (v.needOf sizes.amount) (v.needOf sizes'.amount))) grain := by
  have hpayload : (p.grown sizes).payload = some (.btrfs v) := payload_grown_eq_btrfs_iff.mpr h
  have hneed : ((p.grown sizes).grown sizes').need = 0 := by
    rw [need, payload_grown_eq_btrfs_iff.mpr hpayload]
    rfl
  rw [room, hneed, Nat.max_zero, size_grown_btrfs hpayload, size_grown_btrfs h, Nat.max_assoc]

/-- A volume that has been realized has the subvolumes that it had. -/
lemma IsRealizationOf.exists_btrfs {type : TableType} {p' : Partition} {v' : BtrfsVolume}
    (h : p'.IsRealizationOf type p) (hv : p'.payload = some (.btrfs v')) :
    ∃ v, p.payload = some (.btrfs v)
      ∧ v'.subvolumes.map (·.mountpoint) = v.subvolumes.map (·.mountpoint) := by
  have hpayload := h.payload
  rw [hv] at hpayload
  generalize p.payload = payload at hpayload ⊢
  cases hpayload with
  | some hsome =>
    cases hsome with
    | btrfs hvolume =>
      obtain ⟨id, rfl⟩ := hvolume
      refine ⟨_, rfl, ?_⟩
      exact List.map_map.trans (BtrfsVolume.map_mountpoint_reportSize _ p'.size)

end Partition

/-! ## From the template to the finished table -/

section Pairs

variable {α β γ : Type} {R : α → β → Prop} {as : List α} {bs : List β}

lemma forall₂_dropLast (h : List.Forall₂ R as bs) : List.Forall₂ R as.dropLast bs.dropLast := by
  rw [List.dropLast_eq_take, List.dropLast_eq_take, h.length_eq]
  exact List.forall₂_take _ h

lemma forall₂_and_of_map_eq {f : α → γ} {g : β → γ} (hR : List.Forall₂ R as bs)
    (h : as.map f = bs.map g) : List.Forall₂ (fun a b => R a b ∧ f a = g b) as bs := by
  induction hR with
  | nil => exact .nil
  | cons hab _ ih =>
    obtain ⟨hhead, htail⟩ := List.cons.inj h
    exact .cons ⟨hab, hhead⟩ (ih htail)

end Pairs

namespace Table

/-- All partitions of a finished table but the last take no more than their room. -/
lemma IsFinished.map_size_dropLast {t d : Table} {required : PathMap Nat} {minimum : Nat}
    (h : t.IsFinished d required minimum) :
    t.partitions.dropLast.map (·.size) =
      (rootLast d.partitions).dropLast.map fun p => (p.grown (d.chargesOf required)).room := by
  have hidentified := h.identified.partitions
  have hsizes := map_size_dropLast_laidOut (d.grown required) minimum
  rw [partitions_grown, rootLast_map (fun p => p.mounts_grown _ "/"), ← List.map_dropLast,
    List.map_map] at hsizes
  -- the layout stays closed: only the sizes in it count
  generalize (d.grown required).laidOut minimum = placed at hidentified hsizes
  have hkept := map_eq_of_forall₂ (fun p q hp => hp.size_eq) hidentified
  rw [List.map_dropLast, hkept, ← List.map_dropLast, hsizes]
  rfl

/-- Each partition of a finished table is one of the draft that has grown. -/
lemma IsFinished.exists_partition {t d : Table} {required : PathMap Nat} {minimum : Nat}
    (h : t.IsFinished d required minimum) {p' : Partition} (hp : p' ∈ t.partitions) :
    ∃ p ∈ d.partitions, p'.IsRealizationOf d.type (p.grown (d.chargesOf required))
      ∧ (p' ∈ t.partitions.dropLast → p'.size = (p.grown (d.chargesOf required)).room) := by
  have hrealized := h.isRealizationOf_grown
  have hmem {p : Partition} (hp : p ∈ rootLast d.partitions) : p ∈ d.partitions :=
    (perm_rootLast _).mem_iff.mp hp
  by_cases hdropped : p' ∈ t.partitions.dropLast
  · obtain ⟨p, hp, hp', hsize⟩ := exists_mem_of_forall₂
      (forall₂_and_of_map_eq (forall₂_dropLast hrealized) h.map_size_dropLast).flip hdropped
    exact ⟨p, hmem (List.dropLast_subset _ hp), hp', fun _ => hsize⟩
  · obtain ⟨p, hp, hp'⟩ := exists_mem_of_forall₂ hrealized.flip hp
    exact ⟨p, hmem hp, hp', fun h => absurd h hdropped⟩

/-- A volume of an adapted template is one of the template, grown to the sizes that are asked
for: what is added holds plain filesystems. -/
lemma exists_btrfs_of_mem_adapted {template : Table} {requests : List FilesystemRequest}
    {rootType : FsType} {p : Partition} {v : BtrfsVolume}
    (hp : p ∈ (template.adapted rootType requests).partitions)
    (hv : p.payload = some (.btrfs v)) :
    ∃ q ∈ template.partitions, q.payload = some (.btrfs v)
      ∧ p = q.grown (template.sizesFor requests) := by
  obtain ⟨q, hq, rfl⟩ := List.mem_map.mp hp
  have hvolume := Partition.payload_grown_eq_btrfs_iff.mp hv
  rcases List.mem_append.mp hq with hq | hq
  · exact ⟨q, hq, hvolume, rfl⟩
  · obtain ⟨r, -, rfl⟩ := List.mem_map.mp hq
    cases hvolume

/-- **A volume has the larger of two sums.**  In a table from a template, a btrfs partition has the
size that the template gives it, what is asked for its subvolumes together and what they are owed
together; unless it is the last one, it has just the largest of these, on the grain.  When of what
is asked for and what is owed one is the larger on all subvolumes of a volume, all of them have the
larger of their needs at once. -/
theorem fromTemplate_volume_size {template t : Table} {requests : List FilesystemRequest}
    {size : Nat} {mode : SizingMode} {required : PathMap Nat} {stream stream' : ByteStream}
    (habs : ∀ e ∈ required.entries, Path.isAbsolute e.1 = true)
    (h : template.fromTemplate requests size mode required stream = .ok (t, stream')) :
    ∀ p' ∈ t.partitions, ∀ v', p'.payload = some (.btrfs v') →
      ∃ p ∈ template.partitions, ∃ v, p.payload = some (.btrfs v)
        ∧ v'.subvolumes.map (·.mountpoint) = v.subvolumes.map (·.mountpoint)
        ∧ max p.size (max (v'.needOf (askedAt requests)) (v'.needOf (owed t.mountpoints required)))
          ≤ p'.size
        ∧ (p' ∈ t.partitions.dropLast → p'.size = roundUp (max p.size
          (max (v'.needOf (askedAt requests)) (v'.needOf (owed t.mountpoints required)))) grain)
        ∧ (v'.IsOneSided (askedAt requests) (owed t.mountpoints required) →
          v'.needOf (fun m => max (askedAt requests m) (owed t.mountpoints required m))
            ≤ p'.size) := by
  obtain ⟨hnodup, root, -, hfinished⟩ := isFinished_of_fromTemplate h
  intro p' hp' v' hv'
  obtain ⟨_, hq, hrealized, hroom⟩ := hfinished.exists_partition hp'
  obtain ⟨v, hv, hsame⟩ := hrealized.exists_btrfs hv'
  obtain ⟨p, hp, hpv, rfl⟩ :=
    exists_btrfs_of_mem_adapted hq (Partition.payload_grown_eq_btrfs_iff.mp hv)
  -- the first growth is for what is asked for, the second one for what is owed
  have hasked : v.needOf (template.sizesFor requests).amount = v'.needOf (askedAt requests) := by
    rw [BtrfsVolume.needOf_congr _ hsame]
    refine Size.total_congr fun s hs => amount_sizesFor_eq_askedAt hnodup ?_
    refine List.mem_flatMap.mpr ⟨p, hp, ?_⟩
    rw [Partition.mountpoints, hpv]
    exact List.mem_map_of_mem hs
  have howed : v.needOf ((template.adapted root.fsType requests).chargesOf required).amount =
      v'.needOf (owed t.mountpoints required) := by
    rw [BtrfsVolume.needOf_congr _ hsame, amount_chargesOf _ habs,
      owed_congr (fun _ => hfinished.mountpoints_perm.mem_iff)]
  have hle : max p.size
      (max (v'.needOf (askedAt requests)) (v'.needOf (owed t.mountpoints required))) ≤ p'.size := by
    have hsize := hrealized.size_le
    rwa [Partition.size_grown_btrfs (Partition.payload_grown_eq_btrfs_iff.mp hv),
      Partition.size_grown_btrfs hpv, hasked, howed, Nat.max_assoc] at hsize
  refine ⟨p, hp, v, hpv, hsame, hle, fun hdropped => ?_, fun hsided => ?_⟩
  · rw [hroom hdropped, Partition.room_grown_grown_btrfs hpv, hasked, howed]
  · have hsum := (BtrfsVolume.needOf_max_le_iff _ _ v').mpr hsided
    omega

/-- Both subvolumes are asked for more than they are owed, and have what is asked for. -/
theorem fromTemplate_volume_size_of_asked :
    ∃ t stream' p v, fromTemplate
        { type := .gpt
          partitions :=
            [{ size := 1048576, type := "a", payload := some (.btrfs
                { subvolumes := [{ name := "srv", mountpoint := "/srv" },
                  { name := "home", mountpoint := "/home" }] }) },
              { size := 1048576, type := "b", payload := some (.filesystem
                (.mountedAt .xfs "/")) }] }
        [{ mountpoint := "/srv", minsize := 3145728 }, { mountpoint := "/home", minsize := 5 }]
        0 .grow (.ofList [("/srv/www", 2097152)]) (.counting 0) = .ok (t, stream')
      ∧ p ∈ t.partitions ∧ p.payload = some (.btrfs v)
      ∧ p.size = 4194304
      ∧ v.needOf (fun m => max (askedAt [{ mountpoint := "/srv", minsize := 3145728 },
          { mountpoint := "/home", minsize := 5 }] m)
          (owed t.mountpoints (.ofList [("/srv/www", 2097152)]) m)) ≤ p.size := by
  refine ⟨_, _, _, _, rfl, List.mem_cons_self, rfl, ?_⟩
  obtain ⟨-, -, -, -, -, -, hsize, hroom⟩ := fromTemplate_volume_size (by decide) (show fromTemplate
    { type := .gpt
      partitions :=
        [{ size := 1048576, type := "a", payload := some (.btrfs
            { subvolumes := [{ name := "srv", mountpoint := "/srv" },
              { name := "home", mountpoint := "/home" }] }) },
          { size := 1048576, type := "b", payload := some (.filesystem (.mountedAt .xfs "/")) }] }
    [{ mountpoint := "/srv", minsize := 3145728 }, { mountpoint := "/home", minsize := 5 }]
    0 .grow (.ofList [("/srv/www", 2097152)]) (.counting 0) = _ from rfl)
    _ List.mem_cons_self _ rfl
  exact ⟨rfl, hroom (.inr (by decide))⟩

/-- The root is asked for and `/var` is owed, and the volume that they share has room for one. -/
theorem exists_fromTemplate_volume_short :
    ∃ (template t : Table) (stream' : ByteStream) (p : Partition) (v : BtrfsVolume),
      template.mountpoints.Nodup
      ∧ (∀ e ∈ (PathMap.ofList [("/var/log", 3221225472)]).entries, Path.isAbsolute e.1 = true)
      ∧ template.fromTemplate [{ mountpoint := "/", minsize := 3221225472 }] 0 .grow
          (.ofList [("/var/log", 3221225472)]) (.counting 0) = .ok (t, stream')
      ∧ p ∈ t.partitions ∧ p.payload = some (.btrfs v)
      ∧ p.size < v.needOf fun m => max (askedAt [{ mountpoint := "/", minsize := 3221225472 }] m)
          (owed t.mountpoints (.ofList [("/var/log", 3221225472)]) m) := by
  refine ⟨{ type := .gpt
            partitions := [{ size := 1048576, type := "a", payload := some (.btrfs
              { subvolumes := [{ name := "root", mountpoint := "/" },
                { name := "var", mountpoint := "/var" }] }) }] },
    _, _, _, _, by decide, by decide, rfl, List.mem_cons_self, rfl, by decide⟩

end Table
end DiskPlan
