import DiskPlan.Document.Error
import DiskPlan.Text.Quoted

/-!
# Why a plan fails

Each failure is a value that carries its cause; `PlanError.message` gives the wording.  Violations
of the rules on customizations and of the mountpoint policy are causes of their own, with wordings
of their own.
-/
namespace DiskPlan

/-- How a customization breaks the structural rules. -/
inductive Violation where
  /-- It asks for both volume groups and btrfs volumes. -/
  | btrfsAndLvm
  /-- It asks for more than one btrfs volume. -/
  | manyBtrfsVolumes
  /-- It asks for more than one volume group. -/
  | manyVolumeGroups
  /-- A plain filesystem has an empty mountpoint. -/
  | emptyFilesystemMountpoint
  /-- A logical volume has an empty mountpoint. -/
  | emptyLogicalMountpoint
  /-- A subvolume has an empty mountpoint. -/
  | emptySubvolumeMountpoint
  /-- A subvolume has an empty name. -/
  | emptySubvolumeName
  /-- Two logical volumes of a group have one name. -/
  | duplicateLogicalVolume (name group : String)
  /-- Two subvolumes of a volume have one name. -/
  | duplicateSubvolume (name : String)
  /-- A mountpoint occurs twice. -/
  | duplicateMountpoint (mountpoint : String)
  deriving Repr, DecidableEq

/-- The wording of a violation. -/
def Violation.message : Violation → String
  | .btrfsAndLvm => "btrfs and lvm partitioning cannot be combined"
  | .manyBtrfsVolumes => "multiple btrfs volumes are not yet supported"
  | .manyVolumeGroups => "multiple LVM volume groups are not yet supported"
  | .emptyFilesystemMountpoint =>
    "filesystem with empty mountpoint in partitioning customizations"
  | .emptyLogicalMountpoint =>
    "logical volume with empty mountpoint in partitioning customizations"
  | .emptySubvolumeMountpoint =>
    "btrfs subvolume with empty mountpoint in partitioning customizations"
  | .emptySubvolumeName => "btrfs subvolume with empty name in partitioning customizations"
  | .duplicateLogicalVolume name group =>
    "duplicate lvm logical volume name " ++ Text.quote name ++ " in volume group "
      ++ Text.quote group ++ " in partitioning customizations"
  | .duplicateSubvolume name =>
    "duplicate btrfs subvolume name " ++ Text.quote name ++ " in partitioning customizations"
  | .duplicateMountpoint mountpoint =>
    "duplicate mountpoint " ++ Text.quote mountpoint ++ " in partitioning customizations"

/-- Why a mountpoint is refused by a policy. -/
inductive PathViolation where
  /-- It does not start at the root. -/
  | notAbsolute (path : String)
  /-- It has an empty component, `.` or `..`. -/
  | notCanonical (path : String)
  /-- No policy allows it. -/
  | notAllowed (path : String)
  deriving Repr, DecidableEq

/-- The wording of a refused mountpoint. -/
def PathViolation.message : PathViolation → String
  | .notAbsolute path => "path " ++ Text.quote path ++ " must be absolute"
  | .notCanonical path => "path " ++ Text.quote path ++ " must be canonical"
  | .notAllowed path => "path " ++ Text.quote path ++ " is not allowed"

/-- What cannot be settled while a table is planned. -/
inductive ConfigurationError where
  /-- No type is given for filesystems that name none. -/
  | noDefaultFsType
  /-- No filesystem type has this name. -/
  | fsType (name : String)
  /-- No kind of partition table has this name. -/
  | tableType (name : String)
  /-- No boot mode has this name. -/
  | bootMode (name : String)
  /-- No sizing mode has this name. -/
  | sizingMode (name : String)
  /-- Every name that could be made for a logical volume is taken. -/
  | noVolumeName (mountpoint group : String)
  /-- A logical volume of that name is in the group. -/
  | volumeExists (name group : String)
  deriving Repr, DecidableEq

/-- The wording of a configuration error. -/
def ConfigurationError.message : ConfigurationError → String
  | .noDefaultFsType => "no default filesystem type"
  | .fsType name => "unsupported filesystem type: " ++ Text.quote name
  | .tableType name => "invalid partition table type: " ++ name
  | .bootMode name => "invalid boot mode: " ++ name
  | .sizingMode name => "invalid partitioning mode: " ++ name
  | .noVolumeName mountpoint group =>
    "could not create logical volume name for " ++ mountpoint ++ " in volume group " ++ group
  | .volumeExists name group =>
    "logical volume " ++ name ++ " already exists in volume group " ++ group

/-- Why a plan fails. -/
inductive PlanError where
  /-- A customization in JSON cannot be read. -/
  | unreadableJson (input : String) (fault : Document.Fault)
  /-- A customization in TOML cannot be read. -/
  | unreadableToml (fault : Document.Fault)
  /-- A file is missing or is no text. -/
  | unreadableFile
  /-- A text is not a size. -/
  | size (cause : Size.NotationError)
  /-- A customization breaks a structural rule. -/
  | invalid (violation : Violation)
  /-- Mountpoints are refused by the policy; all of them are listed. -/
  | refusedMountpoints (violations : List PathViolation)
  /-- What is asked for does not fit on the disk. -/
  | geometry (required requested : Nat)
  /-- The sector size is no power of two up to the grain. -/
  | sectorSize (bytes : Nat)
  /-- Nothing is mounted there. -/
  | mountpointNotFound (mountpoint : String)
  /-- The table has been placed already. -/
  | alreadyFinalized
  /-- Nothing is mounted at the root. -/
  | missingRoot
  /-- Something has no identifier yet. -/
  | missingIdentifier (owner : String)
  /-- Something cannot be settled. -/
  | configuration (cause : ConfigurationError)
  deriving Repr, DecidableEq

namespace PlanError

/-- The wording of a failure. -/
def message : PlanError → String
  | unreadableJson input _ => "cannot decode customization " ++ Text.quote input
  | unreadableToml _ => "cannot decode TOML customization"
  | unreadableFile => "IO error"
  | size cause => cause.message
  | invalid violation => violation.message
  | refusedMountpoints violations =>
    "the following errors occurred while setting up custom mountpoints:\n"
      ++ String.intercalate "\n" (violations.map PathViolation.message)
  | geometry required requested =>
    "partition table does not fit: " ++ toString required ++ " bytes required, "
      ++ toString requested ++ " bytes requested"
  | sectorSize bytes =>
    "invalid sector size " ++ toString bytes
      ++ ": must be a power of two dividing the 1 MiB grain"
  | mountpointNotFound mountpoint => "cannot find mountpoint " ++ mountpoint
  | alreadyFinalized => "partition table has already been finalized"
  | missingRoot => "no root filesystem found in partition table"
  | missingIdentifier owner => owner ++ " has no identifier; generate identifiers first"
  | configuration cause => "error generating partition table: " ++ cause.message

/-- The failure when a size grows past the limit: no disk can hold it. -/
def overflow (requested : Nat) : PlanError := .geometry (Size.limit - 1) requested

end PlanError
end DiskPlan
