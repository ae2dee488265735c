import DiskPlan.Customization
import DiskPlan.Error
import DiskPlan.Path
import DiskPlan.PathMap

/-!
# Mountpoint policies

Which mountpoints may be asked for.  Policies are kept by path, and the one of the nearest path at
or above a mountpoint decides: it may deny it, or allow its own path only, or allow all below it.
All violations of a customization are reported at once.
-/
namespace DiskPlan

/-- The rule for a path and what is below it. -/
structure PathPolicy where
  /-- Nothing is allowed there. -/
  deny : Bool := false
  /-- Only the path itself is allowed. -/
  exact : Bool := false
  deriving Repr, DecidableEq

/-- Policies by path. -/
abbrev Policies := PathMap PathPolicy

namespace Policies

/-- The path and the policy that decide about a mountpoint: those of the deepest path that holds
it. -/
def deciding? (policies : Policies) (path : String) : Option (String × PathPolicy) := do
  let key ← Path.deepest policies.keys path
  let policy ← policies.get? key
  return (key, policy)

/-- Whether a policy of the path `key` allows a mountpoint. -/
def allows (key : String) (policy : PathPolicy) (path : String) : Bool :=
  !policy.deny && (!policy.exact || key == path)

/-- Accepts a mountpoint that is absolute, canonical and allowed. -/
def check (policies : Policies) (path : String) : Except PathViolation Unit :=
  if !Path.isAbsolute path then .error (.notAbsolute path)
  else if !Path.isCanonical path then .error (.notCanonical path)
  else
    match policies.deciding? path with
    | some (key, policy) =>
      if allows key policy path then .ok () else .error (.notAllowed path)
    | none => .error (.notAllowed path)

/-- The violation of a mountpoint, if it is refused. -/
def violation? (policies : Policies) (path : String) : Option PathViolation :=
  match policies.check path with
  | .ok () => none
  | .error violation => some violation

/-- Accepts mountpoints that are all accepted, and else gives every violation, in order. -/
def checkAll (policies : Policies) (paths : List String) : Except PlanError Unit :=
  match paths.filterMap policies.violation? with
  | [] => .ok ()
  | violations => .error (.refusedMountpoints violations)

/-- Checks the mountpoints of plain filesystems. -/
def checkFilesystems (policies : Policies) (filesystems : List FilesystemRequest) :
    Except PlanError Unit :=
  policies.checkAll (filesystems.map (·.mountpoint))

/-- Checks every mountpoint of a customization; without one there is nothing to check. -/
def checkCustomization (policies : Policies) : Option Customization → Except PlanError Unit
  | some c => policies.checkAll c.mountpoints
  | none => .ok ()

/-- The policies of most images: the root and `/boot` as such, and the usual places for data except
for those below `/var` that the system itself mounts. -/
def standard : Policies :=
  .ofList ([("/", { exact := true }), ("/boot", { exact := true }), ("/var/run", { deny := true }),
    ("/var/lock", { deny := true })]
    ++ ["/var", "/opt", "/srv", "/usr", "/app", "/data", "/home", "/tmp"].map fun path =>
      (path, { deny := false }))

end Policies
end DiskPlan
