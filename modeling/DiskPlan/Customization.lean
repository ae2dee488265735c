import DiskPlan.Filesystem

/-!
# Customizations

What a user asks of a disk image: a least size for the image, plain filesystems, volume groups with
logical volumes, and btrfs volumes with subvolumes.  A size of zero means that none is asked for.
The mountpoints of a customization are listed in a fixed order: the plain filesystems, the logical
volumes, the subvolumes, each in the order of the document.
-/
namespace DiskPlan

/-- A filesystem that is asked for. -/
structure FilesystemRequest where
  /-- Where it is mounted. -/
  mountpoint : String
  /-- The least size of what holds it. -/
  minsize : Nat := 0
  /-- Its label. -/
  label : Option String := none
  /-- Its type, if not the default one. -/
  type : Option FsType := none
  deriving Repr, DecidableEq

/-- The plain filesystems that are asked for, each on a partition of its own. -/
structure PlainRequest where
  /-- The filesystems, in document order. -/
  filesystems : List FilesystemRequest := []
  deriving Repr, DecidableEq

/-- A logical volume that is asked for. -/
structure LogicalVolumeRequest where
  /-- Its name; made from the mountpoint when there is none or an empty one. -/
  name : Option String := none
  /-- The filesystem on it. -/
  filesystem : FilesystemRequest
  deriving Repr, DecidableEq

/-- A volume group that is asked for. -/
structure VolumeGroupRequest where
  /-- Its name; a default one when empty. -/
  name : String
  /-- The least size of the partition that holds the group. -/
  minsize : Nat := 0
  /-- The logical volumes, in document order. -/
  logicalVolumes : List LogicalVolumeRequest := []
  deriving Repr, DecidableEq

/-- The volume groups that are asked for. -/
structure LvmRequest where
  /-- The groups, in document order. -/
  volumeGroups : List VolumeGroupRequest := []
  deriving Repr, DecidableEq

/-- A subvolume that is asked for. -/
structure SubvolumeRequest where
  /-- Its name. -/
  name : String := ""
  /-- Where it is mounted. -/
  mountpoint : String
  deriving Repr, DecidableEq

/-- A btrfs volume that is asked for. -/
structure BtrfsVolumeRequest where
  /-- The least size of the partition that holds the volume. -/
  minsize : Nat := 0
  /-- The subvolumes, in document order. -/
  subvolumes : List SubvolumeRequest := []
  deriving Repr, DecidableEq

/-- The btrfs volumes that are asked for. -/
structure BtrfsRequest where
  /-- The volumes, in document order. -/
  volumes : List BtrfsVolumeRequest := []
  deriving Repr, DecidableEq

/-- All that is asked of a disk image. -/
structure Customization where
  /-- The least size of the image. -/
  minsize : Nat := 0
  /-- The plain filesystems. -/
  plain : Option PlainRequest := none
  /-- The volume groups. -/
  lvm : Option LvmRequest := none
  /-- The btrfs volumes. -/
  btrfs : Option BtrfsRequest := none
  deriving Repr, DecidableEq

namespace Customization

/-- The customization that asks for plain filesystems only. -/
def ofPlain (filesystems : List FilesystemRequest) : Customization :=
  { plain := some { filesystems } }

/-- The plain filesystems, none if the customization does not speak of them. -/
def plainFilesystems (c : Customization) : List FilesystemRequest :=
  c.plain.elim [] (·.filesystems)

/-- The volume groups, none if the customization does not speak of them. -/
def volumeGroups (c : Customization) : List VolumeGroupRequest :=
  c.lvm.elim [] (·.volumeGroups)

/-- The btrfs volumes, none if the customization does not speak of them. -/
def btrfsVolumes (c : Customization) : List BtrfsVolumeRequest :=
  c.btrfs.elim [] (·.volumes)

/-- The mountpoints of the logical volumes. -/
def logicalMountpoints (c : Customization) : List String :=
  c.volumeGroups.flatMap fun group => group.logicalVolumes.map (·.filesystem.mountpoint)

/-- The mountpoints of the subvolumes. -/
def subvolumeMountpoints (c : Customization) : List String :=
  c.btrfsVolumes.flatMap fun volume => volume.subvolumes.map (·.mountpoint)

/-- Every mountpoint: plain filesystems, then logical volumes, then subvolumes. -/
def mountpoints (c : Customization) : List String :=
  c.plainFilesystems.map (·.mountpoint) ++ c.logicalMountpoints ++ c.subvolumeMountpoints

/-- Whether a partition for `/boot` has to be added: the root is on a logical volume or a subvolume,
where a boot loader cannot read it, and nothing is mounted at `/boot`. -/
def requiresBoot (c : Customization) : Bool :=
  !c.mountpoints.contains "/boot"
    && (c.logicalMountpoints.contains "/" || c.subvolumeMountpoints.contains "/")

end Customization
end DiskPlan
