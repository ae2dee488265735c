import DiskPlan.Table

/-!
# Standard partitions

The type codes of partitions, the partitions that boot loaders expect, and a template with all of
them.
-/
namespace DiskPlan

/-- What the type code of a partition tells of it. -/
inductive Role where
  /-- Room for a BIOS boot loader. -/
  | biosBoot
  /-- The EFI system partition. -/
  | efiSystem
  /-- The boot directory of the system. -/
  | extendedBoot
  /-- Data in a filesystem. -/
  | data
  /-- A volume group. -/
  | lvm
  deriving Repr, DecidableEq

/-- The type code of a role in a kind of table. -/
def Role.code : Role → TableType → String
  | .biosBoot, .gpt => "21686148-6449-6E6F-744E-656564454649"
  | .efiSystem, .gpt => "C12A7328-F81F-11D2-BA4B-00A0C93EC93B"
  | .extendedBoot, .gpt => "BC13C2FF-59E6-4262-A352-B275FD6F7172"
  | .data, .gpt => "0FC63DAF-8483-4772-8E79-3D69D8477DE4"
  | .lvm, .gpt => "E6D6D379-F507-44C2-A23C-238F2A3DF928"
  | .biosBoot, .dos => "00"
  | .efiSystem, .dos => "ef"
  | .extendedBoot, .dos => "83"
  | .data, .dos => "83"
  | .lvm, .dos => "8e"

/-- The role of a partition with a plain filesystem mounted at `mountpoint`. -/
def Role.ofMountpoint (mountpoint : String) : Role :=
  if mountpoint = "/boot" then .extendedBoot else .data

namespace Partition

/-- A partition that holds a plain filesystem, with the type code that its mountpoint asks for. -/
def plain (type : TableType) (size : Nat) (mountpoint : String) (fs : Filesystem) : Partition where
  size
  type := (Role.ofMountpoint mountpoint).code type
  payload := some (.filesystem fs)

/-- The identifier of a standard partition, which only those of a GPT have. -/
def standardUuid (type : TableType) (uuid : String) : Option String :=
  match type with
  | .gpt => some uuid
  | .dos => none

/-- The partition for a BIOS boot loader: 1 MiB, marked for booting. -/
def biosBoot (type : TableType) : Partition where
  size := Size.mebibyte
  type := Role.biosBoot.code type
  bootable := true
  uuid := standardUuid type "FAC7F1FB-3E8D-4137-A512-961DE09A5549"

/-- The EFI system partition: 200 MiB with a FAT filesystem mounted at `/boot/efi`. -/
def efiSystem (type : TableType) : Partition where
  size := 200 * Size.mebibyte
  type := Role.efiSystem.code type
  uuid := standardUuid type "68B2905B-DF3E-4FB3-80FA-49D1E773AA33"
  payload := some (.filesystem
    { type := .vfat
      uuid := some "7B77-95E7"
      label := some "EFI-SYSTEM"
      mountpoint := some "/boot/efi"
      fstabOptions := "defaults,uid=0,gid=0,umask=077,shortname=winnt"
      fstabPassno := 2 })

/-- A partition for `/boot`: 512 MiB, for roots that boot loaders cannot read. -/
def boot (type : TableType) (fsType : FsType) : Partition :=
  plain type (512 * Size.mebibyte) "/boot" ((Filesystem.mountedAt fsType "/boot").labelled "boot")

end Partition

/-- The template of a GPT with the standard partitions, 500 MiB for `/boot` and 2 GiB for the
root. -/
def Table.baseTemplate : Table where
  type := .gpt
  uuid := some "D209C89E-EA5E-4FBD-B161-B461CCE297E0"
  partitions :=
    [.biosBoot .gpt, .efiSystem .gpt,
      { Partition.plain .gpt (500 * Size.mebibyte) "/boot"
          ((Filesystem.mountedAt .ext4 "/boot").labelled "boot") with
        uuid := some "CB07C243-BC44-4717-853E-28852021225B" },
      { Partition.plain .gpt (2 * Size.gibibyte) "/"
          ((Filesystem.mountedAt .ext4 "/").labelled "root") with
        uuid := some "6264D520-3FB9-423F-8AB8-7A0A8E3D3562" }]

end DiskPlan
