import DiskPlan.Customization
import DiskPlan.Error

/-!
# Structural rules

A customization can be planned when it keeps a list of rules; the first rule that it breaks, in
their order, is its violation.
-/
namespace DiskPlan

/-- The first element that is equal to an earlier one, where `seen` are known to come before. -/
def firstRepeatAfter (seen : List String) : List String → Option String
  | [] => none
  | a :: as => if seen.contains a then some a else firstRepeatAfter (a :: seen) as

/-- The first element of a list that is equal to an earlier one. -/
def firstRepeat (as : List String) : Option String := firstRepeatAfter [] as

/-- The first name that two logical volumes of a group have in common; volumes without a name do
not count. -/
def VolumeGroupRequest.repeatedName (g : VolumeGroupRequest) : Option String :=
  firstRepeat ((g.logicalVolumes.filterMap (·.name)).filter (· != ""))

/-- The first name that two subvolumes of a volume have in common. -/
def BtrfsVolumeRequest.repeatedName (v : BtrfsVolumeRequest) : Option String :=
  firstRepeat (v.subvolumes.map (·.name))

/-- The violation of the rules on the names and mountpoints of a btrfs volume's subvolumes. -/
def BtrfsVolumeRequest.emptyText? (v : BtrfsVolumeRequest) : Option Violation :=
  if v.subvolumes.any (·.mountpoint == "") then some .emptySubvolumeMountpoint
  else if v.subvolumes.any (·.name == "") then some .emptySubvolumeName
  else none

namespace Customization

/-- The violations of a customization, those of the earlier rules first. -/
def violations (c : Customization) : List Violation :=
  (if c.btrfs.isSome && c.lvm.isSome then [.btrfsAndLvm] else [])
    ++ (if c.btrfsVolumes.length > 1 then [.manyBtrfsVolumes] else [])
    ++ (if c.volumeGroups.length > 1 then [.manyVolumeGroups] else [])
    ++ (if c.plainFilesystems.any (·.mountpoint == "") then [.emptyFilesystemMountpoint] else [])
    ++ (if c.logicalMountpoints.contains "" then [.emptyLogicalMountpoint] else [])
    ++ c.btrfsVolumes.filterMap (·.emptyText?)
    ++ c.volumeGroups.filterMap (fun g =>
      g.repeatedName.map fun name => .duplicateLogicalVolume name g.name)
    ++ c.btrfsVolumes.filterMap (fun v => v.repeatedName.map .duplicateSubvolume)
    ++ ((firstRepeat c.mountpoints).map .duplicateMountpoint).toList

/-- Accepts a customization that keeps all rules, and else gives its first violation. -/
def validate (c : Customization) : Except PlanError Unit :=
  match c.violations.head? with
  | none => .ok ()
  | some violation => .error (.invalid violation)

end Customization
end DiskPlan
