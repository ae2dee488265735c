import DiskPlan.Document.Encoder
import DiskPlan.Document.Record
import DiskPlan.Table

/-!
# Tables as documents

Each part of a table with its fields, its decoder and its encoder.  A payload shares one table with
its kind: the kind is read where it stands, or first in a list, and every other value is taken up
before the payload is read from them.  Whether a table is finalized is not written.
-/
namespace DiskPlan

open Document (Decoder Fields Manner Misfit required defaulted possible)
open Document.Encoder (field ifSet)

namespace Filesystem

/-- The fields of a filesystem. -/
def fields : Fields [FsType, Option String, Option String, Option String, String, Nat, Nat] :=
  required "type" .keyword <| possible "uuid" .text <| possible "label" .text <|
    possible "mountpoint" .text <| defaulted "fstab_options" .text "defaults" <|
      defaulted "fstab_freq" .count 0 <| defaulted "fstab_passno" .count 0 .nil

/-- Reads a filesystem. -/
def decode : Decoder Filesystem :=
  fields.decode fun (type, uuid, label, mountpoint, fstabOptions, fstabFreq, fstabPassno, ()) =>
    { type, uuid, label, mountpoint, fstabOptions, fstabFreq, fstabPassno }

/-- The fields of a filesystem with their values. -/
def encodeFields (fs : Filesystem) : List (String × Datum) :=
  field "type" (Document.Encoder.keyword fs.type) ++ ifSet "uuid" .text fs.uuid
    ++ ifSet "label" .text fs.label ++ ifSet "mountpoint" .text fs.mountpoint
    ++ field "fstab_options" (.text fs.fstabOptions) ++ field "fstab_freq" (.nat fs.fstabFreq)
    ++ field "fstab_passno" (.nat fs.fstabPassno)

/-- Writes a filesystem. -/
def encode (fs : Filesystem) : Datum := .record fs.encodeFields

end Filesystem

namespace LogicalVolume

/-- The fields of a logical volume. -/
def fields : Fields [String, Nat, Filesystem] :=
  required "name" .text <| required "size" .count <| required "payload" Filesystem.decode .nil

/-- Reads a logical volume. -/
def decode : Decoder LogicalVolume :=
  fields.decode fun (name, size, payload, ()) => { name, size, payload }

/-- Writes a logical volume. -/
def encode (v : LogicalVolume) : Datum :=
  .record (field "name" (.text v.name) ++ field "size" (.nat v.size)
    ++ field "payload" v.payload.encode)

end LogicalVolume

namespace VolumeGroup

/-- The fields of a volume group. -/
def fields : Fields [String, String, Option String, List LogicalVolume] :=
  required "name" .text <| required "description" .text <| possible "uuid" .text <|
    defaulted "logical_volumes" (.list LogicalVolume.decode) [] .nil

/-- Reads a volume group. -/
def decode : Decoder VolumeGroup :=
  fields.decode fun (name, description, uuid, logicalVolumes, ()) =>
    { name, description, uuid, logicalVolumes }

/-- The fields of a volume group with their values. -/
def encodeFields (g : VolumeGroup) : List (String × Datum) :=
  field "name" (.text g.name) ++ field "description" (.text g.description)
    ++ ifSet "uuid" .text g.uuid
    ++ field "logical_volumes" (Document.Encoder.list LogicalVolume.encode g.logicalVolumes)

end VolumeGroup

namespace Subvolume

/-- The fields of a subvolume. -/
def fields : Fields [String, String, Option String, Option Nat] :=
  required "name" .text <| required "mountpoint" .text <| possible "uuid" .text <|
    possible "size" .count .nil

/-- Reads a subvolume. -/
def decode : Decoder Subvolume :=
  fields.decode fun (name, mountpoint, uuid, size, ()) => { name, mountpoint, uuid, size }

/-- Writes a subvolume. -/
def encode (s : Subvolume) : Datum :=
  .record (field "name" (.text s.name) ++ field "mountpoint" (.text s.mountpoint)
    ++ ifSet "uuid" .text s.uuid ++ ifSet "size" .nat s.size)

end Subvolume

namespace BtrfsVolume

/-- The fields of a btrfs volume. -/
def fields : Fields [Option String, Option String, List Subvolume] :=
  possible "uuid" .text <| possible "label" .text <|
    defaulted "subvolumes" (.list Subvolume.decode) [] .nil

/-- Reads a btrfs volume. -/
def decode : Decoder BtrfsVolume :=
  fields.decode fun (uuid, label, subvolumes, ()) => { uuid, label, subvolumes }

/-- The fields of a btrfs volume with their values. -/
def encodeFields (v : BtrfsVolume) : List (String × Datum) :=
  ifSet "uuid" .text v.uuid ++ ifSet "label" .text v.label
    ++ field "subvolumes" (Document.Encoder.list Subvolume.encode v.subvolumes)

end BtrfsVolume

/-- The kinds of payload. -/
inductive PayloadKind where
  | filesystem
  | lvm
  | btrfs
  deriving Repr, DecidableEq

instance : Keyword PayloadKind where
  all := [.filesystem, .lvm, .btrfs]
  word
    | .filesystem => "filesystem"
    | .lvm => "lvm"
    | .btrfs => "btrfs"

namespace Payload

/-- The entries of a payload: its kind, once it has been met, and the others, reversed. -/
structure Parts where
  /-- The kind, if the key has been met. -/
  kind : Option PayloadKind := none
  /-- The other entries. -/
  rev : List (Option String × Datum) := []

/-- Reads the kind of a payload, which is a word. -/
def decodeKind : Datum → Except Misfit PayloadKind
  | .text word => Decoder.ofWord word
  | _ => .error .unfit

/-- Takes up the entries of a payload.  The kind is read where it stands; every other value must be
usable. -/
def take : Parts → List (Option String × Datum) → Except Misfit Parts
  | parts, [] => .ok parts
  | _, (none, _) :: _ => .error .unfit
  | parts, (some key, value) :: rest =>
    if key = "kind" then
      match parts.kind with
      | some _ => .error (.duplicateField key)
      | none => do
        let kind ← decodeKind value
        take { parts with kind := some kind } rest
    else if value.isUsable then take { parts with rev := (some key, value) :: parts.rev } rest
    else .error .unfit

/-- Reads a payload of a known kind. -/
def ofKind (m : Manner) (value : Datum) : PayloadKind → Except Misfit Payload
  | .filesystem => (Filesystem.decode m value).map .filesystem
  | .lvm => (VolumeGroup.decode m value).map .lvm
  | .btrfs => (BtrfsVolume.decode m value).map .btrfs

/-- Reads a payload. -/
def decode : Decoder Payload
  | m, .table entries => do
    let parts ← take {} entries
    let some kind := parts.kind | throw (.missingField "kind")
    ofKind { m with held := true } (.table parts.rev.reverse) kind
  | _, .list [] => .error (.missingField "kind")
  | m, .list (first :: rest) => do
    let kind ← decodeKind first
    if (Datum.list rest).isUsable then ofKind { m with held := true } (.list rest) kind
    else throw .unfit
  | _, _ => .error .unfit

/-- Writes a payload, its kind first. -/
def encode (p : Payload) : Datum :=
  .record (field "kind" (.text p.kind) ++
    match p with
    | .filesystem fs => fs.encodeFields
    | .lvm group => group.encodeFields
    | .btrfs volume => volume.encodeFields)

end Payload

namespace Partition

/-- The fields of a partition. -/
def fields : Fields [Nat, Nat, String, Bool, Option String, Option Payload] :=
  defaulted "start" .count 0 <| required "size" .count <| required "type" .text <|
    defaulted "bootable" .bool false <| possible "uuid" .text <|
      possible "payload" Payload.decode .nil

/-- Reads a partition. -/
def decode : Decoder Partition :=
  fields.decode fun (start, size, type, bootable, uuid, payload, ()) =>
    { start, size, type, bootable, uuid, payload }

/-- Writes a partition. -/
def encode (p : Partition) : Datum :=
  .record (field "start" (.nat p.start) ++ field "size" (.nat p.size)
    ++ field "type" (.text p.type) ++ field "bootable" (.bool p.bootable)
    ++ ifSet "uuid" .text p.uuid ++ ifSet "payload" Payload.encode p.payload)

end Partition

namespace Table

/-- The fields of a table. -/
def fields : Fields [TableType, Nat, Nat, Option String, List Partition] :=
  required "type" .keyword <| defaulted "size" .count 0 <| defaulted "sector_size" .count 512 <|
    possible "uuid" .text <| defaulted "partitions" (.list Partition.decode) [] .nil

/-- Reads a table, which is not finalized. -/
def decode : Decoder Table :=
  fields.decode fun (type, size, sectorSize, uuid, partitions, ()) =>
    { type, size, sectorSize, uuid, partitions }

/-- Writes a table. -/
def encode (t : Table) : Datum :=
  .record (field "type" (Document.Encoder.keyword t.type) ++ field "size" (.nat t.size)
    ++ field "sector_size" (.nat t.sectorSize) ++ ifSet "uuid" .text t.uuid
    ++ field "partitions" (Document.Encoder.list Partition.encode t.partitions))

end Table
end DiskPlan
