import DiskPlan.VolumeGroup

/-!
# Payloads

What a partition holds: a plain filesystem, a volume group, or a btrfs volume whose subvolumes share
its storage.
-/
namespace DiskPlan

/-- A subvolume of a btrfs volume. -/
structure Subvolume where
  /-- Its name within the volume. -/
  name : String
  /-- Where it is mounted. -/
  mountpoint : String
  /-- The identifier that it is mounted by, once it has one. -/
  uuid : Option String := none
  /-- The size that it reports; without one, the size of its partition. -/
  size : Option Nat := none
  deriving Repr, DecidableEq

/-- The mount options of a subvolume. -/
def Subvolume.fstabOptions (s : Subvolume) : String := "subvol=" ++ s.name

/-- A btrfs volume. -/
structure BtrfsVolume where
  /-- Its identifier, once it has one. -/
  uuid : Option String := none
  /-- Its label. -/
  label : Option String := none
  /-- Its subvolumes, in order. -/
  subvolumes : List Subvolume := []
  deriving Repr, DecidableEq

namespace BtrfsVolume

/-- The place of the subvolume that reports the size of the volume: the first one mounted at the
root. -/
def primary? (v : BtrfsVolume) : Option Nat := v.subvolumes.findIdx? fun s => s.mountpoint == "/"

/-- The volume with a size reported by its primary subvolume, if it has one. -/
def reportSize (v : BtrfsVolume) (size : Nat) : BtrfsVolume :=
  match v.primary? with
  | some i => { v with subvolumes := v.subvolumes.modify i fun s => { s with size := some size } }
  | none => v

end BtrfsVolume

/-- What a partition holds. -/
inductive Payload where
  /-- A filesystem. -/
  | filesystem (fs : Filesystem)
  /-- A volume group. -/
  | lvm (group : VolumeGroup)
  /-- A btrfs volume. -/
  | btrfs (volume : BtrfsVolume)
  deriving Repr, DecidableEq

namespace Payload

/-- The least size of a partition that can hold the payload. -/
def minimumSize : Payload → Except PlanError Nat
  | .lvm group => group.requiredSize
  | .filesystem _ | .btrfs _ => .ok 0

/-- The mountpoints of a payload, in order; what is not mounted has none. -/
def mountpoints : Payload → List String
  | .filesystem fs => fs.mountpoint.toList
  | .lvm group => group.logicalVolumes.filterMap (·.payload.mountpoint)
  | .btrfs volume => volume.subvolumes.map (·.mountpoint)

/-- The word for the kind of a payload. -/
def kind : Payload → String
  | .filesystem _ => "filesystem"
  | .lvm _ => "lvm"
  | .btrfs _ => "btrfs"

end Payload
end DiskPlan
