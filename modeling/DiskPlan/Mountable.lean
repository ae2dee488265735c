import DiskPlan.PathMap
import DiskPlan.Table

/-!
# Mountables

Whatever can be mounted: a filesystem on a partition, a logical volume, a subvolume, each with what
it is part of.  The mountables of a table are listed in the order of the disk and, within a
payload, in order of declaration; the queries that later stages of an image build ask of a table
are answered from that list.
-/
namespace DiskPlan

/-- Something that is mounted, with what it is part of. -/
inductive Mountable where
  /-- A filesystem that fills a partition. -/
  | filesystem (partition : Partition) (fs : Filesystem)
  /-- A logical volume. -/
  | logicalVolume (partition : Partition) (group : VolumeGroup) (volume : LogicalVolume)
  /-- A subvolume. -/
  | subvolume (partition : Partition) (volume : BtrfsVolume) (subvolume : Subvolume)
  deriving Repr, DecidableEq

namespace Mountable

/-- The partition that a mountable is on. -/
def partition : Mountable → Partition
  | .filesystem p _ | .logicalVolume p _ _ | .subvolume p _ _ => p

/-- Where it is mounted. -/
def mountpoint : Mountable → String
  | .filesystem _ fs => fs.mountpoint.getD ""
  | .logicalVolume _ _ v => v.payload.mountpoint.getD ""
  | .subvolume _ _ s => s.mountpoint

/-- The bytes that it has. -/
def size : Mountable → Nat
  | .filesystem p _ => p.size
  | .logicalVolume _ _ v => v.size
  | .subvolume p _ s => s.size.getD p.size

/-- The identifier that it is mounted by; a subvolume without one has that of its volume. -/
def uuid : Mountable → Option String
  | .filesystem _ fs => fs.uuid
  | .logicalVolume _ _ v => v.payload.uuid
  | .subvolume _ v s => s.uuid.or v.uuid

/-- What it is formatted as. -/
def fsType : Mountable → FsType
  | .filesystem _ fs => fs.type
  | .logicalVolume _ _ v => v.payload.type
  | .subvolume _ _ _ => .btrfs

end Mountable

/-- The mountables of a partition, in order of declaration. -/
def Partition.mountables (p : Partition) : List Mountable :=
  match p.payload with
  | none => []
  | some (.filesystem fs) => if fs.mountpoint.isSome then [.filesystem p fs] else []
  | some (.lvm group) =>
    (group.logicalVolumes.filter (·.payload.mountpoint.isSome)).map (.logicalVolume p group)
  | some (.btrfs volume) => volume.subvolumes.map (.subvolume p volume)

namespace Table

/-- The mountables of a table, in the order of the disk. -/
def mountables (t : Table) : List Mountable := t.partitions.flatMap (·.mountables)

/-- The first mountable at a mountpoint. -/
def find? (t : Table) (mountpoint : String) : Option Mountable :=
  t.mountables.find? fun m => m.mountpoint == mountpoint

/-- The size of what is mounted at a mountpoint. -/
def sizeOf (t : Table) (mountpoint : String) : Except PlanError Nat :=
  match t.find? mountpoint with
  | some m => .ok m.size
  | none => .error (.mountpointNotFound mountpoint)

/-! ## What later stages need -/

/-- The filesystem types of the plain filesystems and logical volumes, mounted or not. -/
def fsTypes (t : Table) : List FsType :=
  t.partitions.flatMap fun p =>
    match p.payload with
    | some (.filesystem fs) => [fs.type]
    | some (.lvm group) => group.logicalVolumes.map (·.payload.type)
    | _ => []

/-- Whether a partition holds a volume group. -/
def hasLvm (t : Table) : Bool := t.partitions.any fun p => p.payload matches some (.lvm _)

/-- Whether a partition holds a btrfs volume. -/
def hasBtrfs (t : Table) : Bool := t.partitions.any fun p => p.payload matches some (.btrfs _)

/-- The packages that a build host needs to make the volumes and filesystems of a table. -/
def buildPackages (t : Table) : List String :=
  let types := t.fsTypes
  [("lvm2", t.hasLvm), ("btrfs-progs", t.hasBtrfs || types.contains .btrfs),
    ("xfsprogs", types.contains .xfs), ("dosfstools", types.contains .vfat),
    ("e2fsprogs", types.contains .ext4)].filterMap fun (name, needed) =>
      if needed then some name else none

/-- The kernel options that lead to a root mountable with the given identifier. -/
def rootOptions (root : Mountable) (uuid : String) : List String :=
  ("root=UUID=" ++ uuid) ::
    match root with
    | .filesystem _ _ => []
    | .logicalVolume _ group volume => ["rd.lvm.lv=" ++ group.name ++ "/" ++ volume.name]
    | .subvolume _ _ s => ["rootflags=subvol=" ++ s.name]

/-- The kernel options that lead to the root filesystem. -/
def kernelOptions (t : Table) : Except PlanError (List String) :=
  match t.find? "/" with
  | none => .error .missingRoot
  | some root =>
    match root.uuid with
    | none => .error (.missingIdentifier "root filesystem")
    | some uuid => .ok (rootOptions root uuid)

/-- The identifier of each mountpoint, where it has one; of several mountables at one mountpoint
the last counts. -/
def partitionMap (t : Table) : PathMap String :=
  .ofList (t.mountables.filterMap fun m => m.uuid.map fun uuid => (m.mountpoint, uuid))

end Table
end DiskPlan
