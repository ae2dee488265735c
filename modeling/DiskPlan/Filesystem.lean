import DiskPlan.Keyword

/-!
# Filesystems

A filesystem is what a partition or a logical volume is formatted with, together with its entry in
the table of mounts.  It need not be mounted: then it has no mountpoint.
-/
namespace DiskPlan

/-- The filesystem types that can be planned. -/
inductive FsType where
  | ext4
  | xfs
  | vfat
  | btrfs
  deriving Repr, DecidableEq

instance : Keyword FsType where
  all := [.ext4, .xfs, .vfat, .btrfs]
  word
    | .ext4 => "ext4"
    | .xfs => "xfs"
    | .vfat => "vfat"
    | .btrfs => "btrfs"

/-- The word of a filesystem type. -/
def FsType.word (t : FsType) : String := Keyword.word t

/-- A filesystem and its entry in the table of mounts. -/
structure Filesystem where
  /-- What it is formatted as. -/
  type : FsType
  /-- Its identifier, once it has one. -/
  uuid : Option String := none
  /-- Its label. -/
  label : Option String := none
  /-- Where it is mounted. -/
  mountpoint : Option String
  /-- The mount options. -/
  fstabOptions : String := "defaults"
  /-- The dump frequency. -/
  fstabFreq : Nat := 0
  /-- The pass in which it is checked at boot. -/
  fstabPassno : Nat := 0
  deriving Repr, DecidableEq

namespace Filesystem

/-- A filesystem mounted at `mountpoint`, with the default mount entry. -/
def mountedAt (type : FsType) (mountpoint : String) : Filesystem :=
  { type, mountpoint := some mountpoint }

/-- The filesystem with a label; an empty label changes nothing. -/
def labelled (fs : Filesystem) (label : String) : Filesystem :=
  if label = "" then fs else { fs with label := some label }

end Filesystem
end DiskPlan
