import DiskPlan.Identifier
import DiskPlan.Table

/-!
# Identification

Filling in the identifiers that a table lacks, from a byte stream.  The walk goes through the table
in a fixed order: the table, then for each partition its own identifier, that of its payload, and
those of the logical volumes.  What is set already is kept and draws nothing.
-/
namespace DiskPlan

/-- An identifier that is set, or else a drawn one. -/
def keepOr (drawn : StateM ByteStream String) : Option String → StateM ByteStream String
  | some id => pure id
  | none => drawn

/-- A filesystem with its identifier: a FAT serial number or a UUID. -/
def Filesystem.identify (fs : Filesystem) : StateM ByteStream Filesystem := do
  let drawn := if fs.type = .vfat then Identifier.drawSerial else Identifier.drawUuid
  return { fs with uuid := some (← keepOr drawn fs.uuid) }

/-- A logical volume with the identifier of its filesystem. -/
def LogicalVolume.identify (v : LogicalVolume) : StateM ByteStream LogicalVolume := do
  return { v with payload := ← v.payload.identify }

/-- A volume group with its identifier and those of its volumes. -/
def VolumeGroup.identify (g : VolumeGroup) : StateM ByteStream VolumeGroup := do
  let uuid ← keepOr Identifier.drawUuid g.uuid
  let volumes ← g.logicalVolumes.mapM (·.identify)
  return { g with uuid := some uuid, logicalVolumes := volumes }

/-- A btrfs volume with its identifier, which its subvolumes without one share. -/
def BtrfsVolume.identify (v : BtrfsVolume) : StateM ByteStream BtrfsVolume := do
  let uuid ← keepOr Identifier.drawUuid v.uuid
  let subvolumes := v.subvolumes.map fun s => { s with uuid := some (s.uuid.getD uuid) }
  return { v with uuid := some uuid, subvolumes }

/-- A payload with its identifiers. -/
def Payload.identify : Payload → StateM ByteStream Payload
  | .filesystem fs => return .filesystem (← fs.identify)
  | .lvm group => return .lvm (← group.identify)
  | .btrfs volume => return .btrfs (← volume.identify)

/-- The identifier of a partition itself, which only those of a GPT have. -/
def Partition.ownIdentifier (type : TableType) (p : Partition) :
    StateM ByteStream (Option String) :=
  match type with
  | .gpt => some <$> keepOr Identifier.drawUuid p.uuid
  | .dos => pure p.uuid

/-- A partition with its identifiers. -/
def Partition.identify (type : TableType) (p : Partition) : StateM ByteStream Partition := do
  let uuid ← p.ownIdentifier type
  let payload ← p.payload.mapM (·.identify)
  return { p with uuid, payload }

/-- A table with all its identifiers. -/
def Table.identify (t : Table) : StateM ByteStream Table := do
  let uuid ← keepOr Identifier.drawUuid t.uuid
  let partitions ← t.partitions.mapM (·.identify t.type)
  return { t with uuid := some uuid, partitions }

end DiskPlan
