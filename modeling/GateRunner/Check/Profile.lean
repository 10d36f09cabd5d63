import GateRunner.Check.Id

/-!
# Profiles of checks

What is known of a check apart from its behaviour: what it is called, what it depends on, and whether it offers
remediation.
-/

namespace GateRunner

/-- What is known of a check apart from its behaviour. -/
structure CheckProfile where
  id : CheckId
  title : String
  dependencies : List CheckId
  offersFix : Bool
deriving DecidableEq, Repr, Inhabited

namespace CheckProfile

/-- A profile without dependencies and without remediation. -/
def new (id : CheckId) (title : String) : CheckProfile := ⟨id, title, [], false⟩

/-- The profile with remediation offered or not. -/
def withFix (p : CheckProfile) (offersFix : Bool) : CheckProfile := { p with offersFix }

/-- The profile with one more dependency, given in written form. -/
def dependingOn (p : CheckProfile) (dependency : String) : Except IdError CheckProfile := do
  let id ← CheckId.parse dependency
  return { p with dependencies := p.dependencies ++ [id] }

end CheckProfile

end GateRunner
