import Greenlight.Entries
import Greenlight.FlagSet
import Greenlight.Fault

/-! # Feature combinations

Which combinations of flags are worth a test run: those that a policy lists, or the combination
without flags and each included flag on its own. -/

namespace Greenlight.Discovery

/-- The policy on combinations. -/
structure FeaturePolicy where
  /-- The combinations to test, if they are listed. -/
  listed : Option (List FlagSet)
  /-- Flags that are included or left out when no combinations are listed. -/
  inclusion : List (String × Bool)
  /-- Groups of flags of which a combination holds at most one. -/
  exclusive : List FlagSet

/-- A flag is included unless the policy leaves it out. -/
def FeaturePolicy.includes (policy : FeaturePolicy) (flag : String) : Bool :=
  (Entries.get? policy.inclusion flag).getD true

/-- The combinations to check, before repeated ones are left out. -/
def candidates (known : List String) (policy : FeaturePolicy) : List FlagSet :=
  match policy.listed with
  | some sets => sets
  | none => FlagSet.empty :: (known.filter policy.includes).map fun flag => FlagSet.ofList [flag]

/-- The members of a combination that exclude each other, for the first group with two of them. -/
def clash? (exclusive : List FlagSet) (flags : FlagSet) : Option FlagSet :=
  (exclusive.map fun group => flags.filter fun flag => decide (flag ∈ group)).find? (1 < ·.size)

/-- A combination holds known flags only, and at most one of each group. -/
def checkCandidate (known : List String) (policy : FeaturePolicy) (flags : FlagSet) :
    Except Fault Unit :=
  let unknown := flags.filter fun flag => !known.contains flag
  if !unknown.isEmpty then .error (.discovery (.flagsUnknown unknown.names))
  else
    match clash? policy.exclusive flags with
    | some clashing => .error (.discovery (.flagsExclusive clashing.names))
    | none => .ok ()

/-- Flags of the policy that the crate does not have. -/
def strangers (known : List String) (policy : FeaturePolicy) : FlagSet :=
  (FlagSet.ofList (policy.inclusion.map (·.1))).filter fun flag => !known.contains flag

/-- The combinations to test, each once, in order. -/
def featureSets (known : List String) (policy : FeaturePolicy) : Except Fault (List FeatureSet) := do
  let unknown := strangers known policy
  if !unknown.isEmpty then .error (.discovery (.policyFlagsUnknown unknown.names))
  let sets := candidates known policy
  sets.forM (checkCandidate known policy)
  return sets.eraseDups.map FeatureSet.of

end Greenlight.Discovery
