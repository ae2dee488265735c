import DiskPlan.Customization
import DiskPlan.Document.Encoder
import DiskPlan.Document.Record

/-!
# Customizations as documents

Each part of a customization with its fields, its decoder and its encoder.  A logical volume has no
record of its own: its name stands among the fields of its filesystem, so it is written only as a
table, whose other values are all taken up before the filesystem is read from them.
-/
namespace DiskPlan

open Document (Decoder Fields Manner Misfit required defaulted possible)
open Document.Encoder (field ifSet unlessZero)

namespace FilesystemRequest

/-- The fields of a filesystem that is asked for. -/
def fields : Fields [String, Nat, Option String, Option FsType] :=
  required "mountpoint" .text <| defaulted "minsize" .size 0 <| possible "label" .text <|
    possible "type" .keyword .nil

/-- Reads a filesystem that is asked for. -/
def decode : Decoder FilesystemRequest :=
  fields.decode fun (mountpoint, minsize, label, type, ()) => { mountpoint, minsize, label, type }

/-- The fields of a filesystem with their values. -/
def encodeFields (r : FilesystemRequest) : List (String × Datum) :=
  field "mountpoint" (.text r.mountpoint) ++ unlessZero "minsize" r.minsize
    ++ ifSet "label" .text r.label ++ ifSet "type" Document.Encoder.keyword r.type

/-- Writes a filesystem that is asked for. -/
def encode (r : FilesystemRequest) : Datum := .record r.encodeFields

end FilesystemRequest

namespace PlainRequest

/-- The fields of the plain filesystems. -/
def fields : Fields [List FilesystemRequest] :=
  defaulted "filesystems" (.list FilesystemRequest.decode) [] .nil

/-- Reads the plain filesystems. -/
def decode : Decoder PlainRequest := fields.decode fun (filesystems, ()) => { filesystems }

/-- Writes the plain filesystems. -/
def encode (r : PlainRequest) : Datum :=
  .record (field "filesystems" (Document.Encoder.list FilesystemRequest.encode r.filesystems))

end PlainRequest

namespace LogicalVolumeRequest

/-- The entries of a logical volume: its name, once it has been met, and the others, reversed. -/
structure Parts where
  /-- The name, if the key has been met. -/
  name : Option (Option String) := none
  /-- The other entries. -/
  rev : List (Option String × Datum) := []

/-- Takes up the entries of a logical volume.  The name is read where it stands; every other value
must be usable. -/
def take (m : Manner) : Parts → List (Option String × Datum) → Except Misfit Parts
  | parts, [] => .ok parts
  | _, (none, _) :: _ => .error .unfit
  | parts, (some key, value) :: rest =>
    if key = "name" then
      match parts.name with
      | some _ => .error (.duplicateField key)
      | none => do
        let name ← Decoder.optional .text m value
        take m { parts with name := some name } rest
    else if value.isUsable then take m { parts with rev := (some key, value) :: parts.rev } rest
    else .error .unfit

/-- Reads a logical volume that is asked for. -/
def decode : Decoder LogicalVolumeRequest
  | m, .table entries => do
    let parts ← take m {} entries
    let filesystem ← FilesystemRequest.decode { m with held := true } (.table parts.rev.reverse)
    return { name := parts.name.getD none, filesystem }
  | m, .moment text => do
    let filesystem ← FilesystemRequest.decode { m with held := true } (.moment text)
    return { filesystem }
  | _, _ => .error .unfit

/-- Writes a logical volume that is asked for. -/
def encode (r : LogicalVolumeRequest) : Datum :=
  .record (ifSet "name" .text r.name ++ r.filesystem.encodeFields)

end LogicalVolumeRequest

namespace VolumeGroupRequest

/-- The fields of a volume group. -/
def fields : Fields [String, Nat, List LogicalVolumeRequest] :=
  required "name" .text <| defaulted "minsize" .size 0 <|
    defaulted "logical-volumes" (.list LogicalVolumeRequest.decode) [] .nil

/-- Reads a volume group that is asked for. -/
def decode : Decoder VolumeGroupRequest :=
  fields.decode fun (name, minsize, logicalVolumes, ()) => { name, minsize, logicalVolumes }

/-- Writes a volume group that is asked for. -/
def encode (r : VolumeGroupRequest) : Datum :=
  .record (field "name" (.text r.name) ++ unlessZero "minsize" r.minsize
    ++ field "logical-volumes"
      (Document.Encoder.list LogicalVolumeRequest.encode r.logicalVolumes))

end VolumeGroupRequest

namespace LvmRequest

/-- The fields of the volume groups. -/
def fields : Fields [List VolumeGroupRequest] :=
  defaulted "volume-groups" (.list VolumeGroupRequest.decode) [] .nil

/-- Reads the volume groups. -/
def decode : Decoder LvmRequest := fields.decode fun (volumeGroups, ()) => { volumeGroups }

/-- Writes the volume groups. -/
def encode (r : LvmRequest) : Datum :=
  .record (field "volume-groups" (Document.Encoder.list VolumeGroupRequest.encode r.volumeGroups))

end LvmRequest

namespace SubvolumeRequest

/-- The fields of a subvolume. -/
def fields : Fields [String, String] :=
  defaulted "name" .text "" <| required "mountpoint" .text .nil

/-- Reads a subvolume that is asked for. -/
def decode : Decoder SubvolumeRequest :=
  fields.decode fun (name, mountpoint, ()) => { name, mountpoint }

/-- Writes a subvolume that is asked for. -/
def encode (r : SubvolumeRequest) : Datum :=
  .record (field "name" (.text r.name) ++ field "mountpoint" (.text r.mountpoint))

end SubvolumeRequest

namespace BtrfsVolumeRequest

/-- The fields of a btrfs volume. -/
def fields : Fields [Nat, List SubvolumeRequest] :=
  defaulted "minsize" .size 0 <|
    defaulted "subvolumes" (.list SubvolumeRequest.decode) [] .nil

/-- Reads a btrfs volume that is asked for. -/
def decode : Decoder BtrfsVolumeRequest :=
  fields.decode fun (minsize, subvolumes, ()) => { minsize, subvolumes }

/-- Writes a btrfs volume that is asked for. -/
def encode (r : BtrfsVolumeRequest) : Datum :=
  .record (unlessZero "minsize" r.minsize
    ++ field "subvolumes" (Document.Encoder.list SubvolumeRequest.encode r.subvolumes))

end BtrfsVolumeRequest

namespace BtrfsRequest

/-- The fields of the btrfs volumes. -/
def fields : Fields [List BtrfsVolumeRequest] :=
  defaulted "volumes" (.list BtrfsVolumeRequest.decode) [] .nil

/-- Reads the btrfs volumes. -/
def decode : Decoder BtrfsRequest := fields.decode fun (volumes, ()) => { volumes }

/-- Writes the btrfs volumes. -/
def encode (r : BtrfsRequest) : Datum :=
  .record (field "volumes" (Document.Encoder.list BtrfsVolumeRequest.encode r.volumes))

end BtrfsRequest

namespace Customization

/-- The fields of a customization. -/
def fields : Fields [Nat, Option PlainRequest, Option LvmRequest, Option BtrfsRequest] :=
  defaulted "minsize" .size 0 <| possible "plain" PlainRequest.decode <|
    possible "lvm" LvmRequest.decode <| possible "btrfs" BtrfsRequest.decode .nil

/-- Reads a customization. -/
def decode : Decoder Customization :=
  fields.decode fun (minsize, plain, lvm, btrfs, ()) => { minsize, plain, lvm, btrfs }

/-- Writes a customization. -/
def encode (c : Customization) : Datum :=
  .record (unlessZero "minsize" c.minsize ++ ifSet "plain" PlainRequest.encode c.plain
    ++ ifSet "lvm" LvmRequest.encode c.lvm ++ ifSet "btrfs" BtrfsRequest.encode c.btrfs)

end Customization
end DiskPlan
