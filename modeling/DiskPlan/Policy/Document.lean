import DiskPlan.Document.Record
import DiskPlan.Policy

/-!
# Policies as documents

Policies are a map from paths to records.
-/
namespace DiskPlan

open Document (Decoder Fields defaulted)

/-- The fields of a policy. -/
def PathPolicy.fields : Fields [Bool, Bool] :=
  defaulted "deny" .bool false <| defaulted "exact" .bool false .nil

/-- Reads a policy. -/
def PathPolicy.decode : Decoder PathPolicy :=
  PathPolicy.fields.decode fun (deny, exact, ()) => { deny, exact }

/-- Reads policies. -/
def Policies.decode : Decoder Policies := .map PathPolicy.decode

end DiskPlan
