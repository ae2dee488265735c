import DiskPlan.Document.Encoder
import DiskPlan.Document.Record
import DiskPlan.Options

/-!
# Options and sizes as documents

Options are a record; the sizes that directories or mountpoints need are a map.
-/
namespace DiskPlan

open Document (Decoder Fields defaulted possible)
open Document.Encoder (field ifSet)

/-- Reads the sizes of paths. -/
def decodeSizes : Decoder (PathMap Nat) := .map .count

namespace Options

/-- The fields of the options. -/
def fields : Fields [Option FsType, BootMode, Option TableType, PathMap Nat, SizingMode] :=
  possible "default_fs_type" .keyword <| defaulted "boot_mode" .keyword .none <|
    possible "table_type" .keyword <| defaulted "required_min_sizes" decodeSizes .empty <|
      defaulted "mode" .keyword .grow .nil

/-- Reads options. -/
def decode : Decoder Options :=
  fields.decode fun (defaultFsType, bootMode, tableType, requiredSizes, mode, ()) =>
    { defaultFsType, bootMode, tableType, requiredSizes, mode }

/-- Writes options. -/
def encode (o : Options) : Datum :=
  .record (ifSet "default_fs_type" Document.Encoder.keyword o.defaultFsType
    ++ field "boot_mode" (Document.Encoder.keyword o.bootMode)
    ++ ifSet "table_type" Document.Encoder.keyword o.tableType
    ++ field "required_min_sizes" (Document.Encoder.map .nat o.requiredSizes)
    ++ field "mode" (Document.Encoder.keyword o.mode))

end Options
end DiskPlan
