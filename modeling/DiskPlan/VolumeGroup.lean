import DiskPlan.Filesystem
import DiskPlan.Size.Checked

/-!
# Volume groups

A volume group fills a partition and is divided into logical volumes.  Space in it is given out in
whole extents, and some is set aside for its own records.  The names of its volumes are distinct: a
volume that is asked for without a name gets one made from its mountpoint, with a number behind it
when that is taken.
-/
namespace DiskPlan

/-- A logical volume: a named piece of a volume group with a filesystem on it. -/
structure LogicalVolume where
  /-- Its name within the group. -/
  name : String
  /-- Its size. -/
  size : Nat
  /-- The filesystem on it. -/
  payload : Filesystem
  deriving Repr, DecidableEq

/-- A volume group. -/
structure VolumeGroup where
  /-- Its name. -/
  name : String
  /-- Who made it. -/
  description : String
  /-- Its identifier, once it has one. -/
  uuid : Option String := none
  /-- Its volumes, in order of creation. -/
  logicalVolumes : List LogicalVolume := []
  deriving Repr, DecidableEq

namespace VolumeGroup

/-- Space in a group is given out in pieces of this size. -/
def extent : Nat := 4 * Size.mebibyte

/-- The space set aside for the records of a group. -/
def metadata : Nat := Size.mebibyte

/-- The name of a group for which none is given. -/
def defaultName : String := "rootvg"

/-- A new group without volumes. -/
def new (name : String) : VolumeGroup where
  name := if name = "" then defaultName else name
  description := "created by disklayout"

/-- Whether a volume of that name is in the group. -/
def hasVolume (g : VolumeGroup) (name : String) : Bool :=
  g.logicalVolumes.any fun v => v.name == name

/-! ## Naming volumes -/

/-- The name made from a mountpoint: without its leading slashes, the others turned into
underscores, and `lv` behind. -/
def nameFor (mountpoint : String) : String :=
  if mountpoint = "/" then "rootlv"
  else
    let tail := mountpoint.toList.dropWhile (· == '/')
    String.ofList (tail.map (fun c => if c = '/' then '_' else c) ++ ['l', 'v'])

/-- A name with a number of two digits behind it. -/
def numbered (base : String) (i : Nat) : String :=
  base ++ String.ofList [Nat.digitChar (i / 10 % 10), Nat.digitChar (i % 10)]

/-- A name for a volume mounted at `mountpoint` that is not taken: the one made from the mountpoint,
or the first of a hundred numbered ones. -/
def freeName (g : VolumeGroup) (mountpoint : String) : Except PlanError String :=
  let base := nameFor mountpoint
  if g.hasVolume base then
    match ((List.range 100).map (numbered base)).find? fun name => !g.hasVolume name with
    | some name => .ok name
    | none => .error (.configuration (.noVolumeName mountpoint g.name))
  else .ok base

/-- The name of a new volume: the given one, which must not be taken, or a free one if none is
given. -/
def chooseName (g : VolumeGroup) (name : String) (payload : Filesystem) : Except PlanError String :=
  if name = "" then g.freeName (payload.mountpoint.getD "")
  else if g.hasVolume name then .error (.configuration (.volumeExists name g.name))
  else .ok name

/-! ## Sizes -/

/-- A size rounded up to whole extents. -/
def wholeExtents (size : Nat) : Except PlanError Nat := Size.align size extent size

/-- The volume that would be added to a group. -/
def newVolume (g : VolumeGroup) (name : String) (size : Nat) (payload : Filesystem) :
    Except PlanError LogicalVolume := do
  let name ← g.chooseName name payload
  let size ← wholeExtents size
  return { name, size, payload }

/-- Adds a volume at the end of the group at hand and gives it back.  All that can fail comes before
the change. -/
def createInPlace (name : String) (size : Nat) (payload : Filesystem) :
    ExceptT PlanError (StateM VolumeGroup) LogicalVolume := do
  let g ← get
  let volume ← g.newVolume name size payload
  modify fun g => { g with logicalVolumes := g.logicalVolumes ++ [volume] }
  return volume

/-- The group with a volume added at its end. -/
def create (g : VolumeGroup) (name : String) (size : Nat) (payload : Filesystem) :
    Except PlanError VolumeGroup :=
  let (result, created) := (createInPlace name size payload).run.run g
  result.map fun _ => created

/-- The run of a creation: the group changes only once there is a volume. -/
theorem run_createInPlace (g : VolumeGroup) (name : String) (size : Nat) (payload : Filesystem) :
    (createInPlace name size payload).run.run g =
      match g.newVolume name size payload with
      | .ok volume => (.ok volume, { g with logicalVolumes := g.logicalVolumes ++ [volume] })
      | .error e => (.error e, g) := by
  have hget (f : VolumeGroup → ExceptT PlanError (StateM VolumeGroup) LogicalVolume) :
      (get >>= f).run.run g = (f g).run.run g := rfl
  rw [createInPlace, hget]
  generalize g.newVolume name size payload = volume
  cases volume <;> rfl

theorem create_eq (g : VolumeGroup) (name : String) (size : Nat) (payload : Filesystem) :
    g.create name size payload = do
      let volume ← g.newVolume name size payload
      return { g with logicalVolumes := g.logicalVolumes ++ [volume] } := by
  rw [create, run_createInPlace]
  cases g.newVolume name size payload <;> rfl

/-- Adds the space of volumes, each in whole extents, to what is already needed. -/
def addVolumes : Nat → List LogicalVolume → Except PlanError Nat
  | needed, [] => .ok needed
  | needed, v :: vs => do
    let rounded ← wholeExtents v.size
    addVolumes (← Size.sum needed rounded v.size) vs

/-- The space that a group needs: its records and every volume in whole extents. -/
def requiredSize (g : VolumeGroup) : Except PlanError Nat := addVolumes metadata g.logicalVolumes

end VolumeGroup
end DiskPlan
