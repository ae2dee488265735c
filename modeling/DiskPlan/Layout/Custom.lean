import DiskPlan.Customization.Validation
import DiskPlan.Layout.Standard
import DiskPlan.Table.Allocation
import DiskPlan.Table.Growth
import DiskPlan.Table.Identification

/-!
# Tables from customizations

A table is planned from a customization in three steps.  First its partitions are listed: those that
the boot mode needs, one for `/boot` if the root is where boot loaders cannot read it, the plain
filesystems, the volume group, the btrfs volume, and a root if nothing else provides one.  Then they
are grown for the directories that they hold and given their places.  Last, what has no identifier
gets one.
-/
namespace DiskPlan

/-- The size of a filesystem or volume for which none is asked. -/
def defaultSize : Nat := Size.gibibyte

/-- A size that is asked for, or the default one. -/
def sizeOrDefault (size : Nat) : Nat := if size = 0 then defaultSize else size

namespace FilesystemRequest

/-- The filesystem that is asked for. -/
def filesystem (r : FilesystemRequest) (defaultType : FsType) : Filesystem :=
  (Filesystem.mountedAt (r.type.getD defaultType) r.mountpoint).labelled (r.label.getD "")

/-- The partition of a plain filesystem. -/
def partition (r : FilesystemRequest) (type : TableType) (defaultType : FsType) : Partition :=
  .plain type (sizeOrDefault r.minsize) r.mountpoint (r.filesystem defaultType)

end FilesystemRequest

/-- Adds a logical volume that is asked for to a group. -/
def LogicalVolumeRequest.addTo (r : LogicalVolumeRequest) (defaultType : FsType)
    (group : VolumeGroup) : Except PlanError VolumeGroup :=
  group.create (r.name.getD "") (sizeOrDefault r.filesystem.minsize)
    (r.filesystem.filesystem defaultType)

namespace VolumeGroupRequest

/-- The volume group that is asked for. -/
def group (r : VolumeGroupRequest) (defaultType : FsType) : Except PlanError VolumeGroup :=
  r.logicalVolumes.foldlM (fun group v => v.addTo defaultType group) (.new r.name)

/-- The partition that is asked for, when it holds the given group. -/
def partitionOf (r : VolumeGroupRequest) (type : TableType) (group : VolumeGroup) : Partition where
  size := r.minsize
  type := Role.lvm.code type
  payload := some (.lvm group)

/-- The partition of a volume group. -/
def partition (r : VolumeGroupRequest) (type : TableType) (defaultType : FsType) :
    Except PlanError Partition := do
  return r.partitionOf type (← r.group defaultType)

end VolumeGroupRequest

namespace BtrfsVolumeRequest

/-- The btrfs volume that is asked for. -/
def volume (r : BtrfsVolumeRequest) : BtrfsVolume where
  subvolumes := r.subvolumes.map fun s => { name := s.name, mountpoint := s.mountpoint }

/-- The partition of a btrfs volume. -/
def partition (r : BtrfsVolumeRequest) (type : TableType) : Partition where
  size := sizeOrDefault r.minsize
  type := Role.data.code type
  payload := some (.btrfs r.volume)

end BtrfsVolumeRequest

/-- The root filesystem of a table that has no other. -/
def defaultRoot (type : TableType) (fsType : FsType) : Partition :=
  .plain type defaultSize "/" ((Filesystem.mountedAt fsType "/").labelled "root")

/-- The partitions that a boot mode needs. -/
def BootMode.partitions (mode : BootMode) (type : TableType) : List Partition :=
  (if mode.needsBios then [.biosBoot type] else [])
    ++ (if mode.needsEfi then [.efiSystem type] else [])

namespace Customization

/-- The partitions that a customization asks for, those of its volume groups given, with those that
booting needs before them. -/
def partitionsWith (c : Customization) (options : Options) (defaultType : FsType)
    (groups : List Partition) : List Partition :=
  let type := options.effectiveTableType
  options.bootMode.partitions type
    ++ (if c.requiresBoot then [.boot type defaultType] else [])
    ++ c.plainFilesystems.map (·.partition type defaultType)
    ++ groups
    ++ c.btrfsVolumes.map (·.partition type)

/-- The table that a customization asks for, the partitions of its volume groups given, with a root
of its own if nothing else is mounted there. -/
def tableWith (c : Customization) (options : Options) (defaultType : FsType)
    (groups : List Partition) : Table :=
  let type := options.effectiveTableType
  let table : Table := { type, partitions := c.partitionsWith options defaultType groups }
  if (table.find? "/").isSome then table else table.add (defaultRoot type defaultType)

/-- The table that a customization asks for, before its partitions are grown and placed. -/
def draft (c : Customization) (options : Options) (defaultType : FsType) :
    Except PlanError Table := do
  let groups ← c.volumeGroups.mapM (·.partition options.effectiveTableType defaultType)
  return c.tableWith options defaultType groups

/-- The table that a customization asks for, with its partitions in their places. -/
def layOut (c : Customization) (options : Options) : Except PlanError Table := do
  c.validate
  let some defaultType := options.defaultFsType
    | throw (.configuration .noDefaultFsType)
  let table ← c.draft options defaultType
  let table ← (table.growDirectories options.requiredSizes).toExcept
  table.allocate c.minsize options.mode

/-- The finished table of a customization; without one, that of the empty customization. -/
def plan (c : Option Customization) (options : Options) (stream : ByteStream) :
    Except PlanError (Table × ByteStream) := do
  let table ← (c.getD {}).layOut options
  return table.identify.run stream

end Customization
end DiskPlan
