import DiskPlan.Error

/-!
# Sizes that must fit

Sums and roundings of byte counts that fail, with the size that was asked for, when they reach the
limit of a disk.
-/
namespace DiskPlan.Size

/-- The sum of two byte counts; `requested` is reported when it is too much. -/
def sum (a b requested : Nat) : Except PlanError Nat :=
  match add? a b with
  | some bytes => .ok bytes
  | none => .error (.overflow requested)

/-- A byte count rounded up to a grain; `requested` is reported when that is too much. -/
def align (bytes grain requested : Nat) : Except PlanError Nat :=
  match alignUp? bytes grain with
  | some rounded => .ok rounded
  | none => .error (.overflow requested)

end DiskPlan.Size
