import PolicyDecision.Policy.Basic

/-! Repositories, in which references are looked up. -/

namespace PolicyDecision

structure PolicyRepository where
  policy? : String → VersionConstraints → Option Policy
  policySet? : String → VersionConstraints → Option PolicySet

/-- Asks the second repository for what the first does not have. -/
def PolicyRepository.orElse (first second : PolicyRepository) : PolicyRepository where
  policy? id constraints := (first.policy? id constraints).or (second.policy? id constraints)
  policySet? id constraints :=
    (first.policySet? id constraints).or (second.policySet? id constraints)

/-- The entries of each id are kept in the order in which they were added. -/
structure PolicyStore where
  policies : Catalogue (List Policy) := ∅
  policySets : Catalogue (List PolicySet) := ∅

/-- An entry with the greatest key; the last one, if there are several. -/
def latestBy (key : α → VersionNumber) : List α → Option α
  | [] => none
  | a :: as =>
    match latestBy key as with
    | none => some a
    | some b => if (key a).compare (key b) = .gt then some a else some b

/-- The latest entry with a version that the constraints admit. -/
def latestAdmitted (version : α → String) (constraints : VersionConstraints) (entries : List α) :
    Option α :=
  latestBy (fun a => (VersionNumber.read (version a)).toOption.getD [])
    (entries.filter fun a => constraints.matchesVersion (version a))

namespace PolicyStore

def addPolicy (s : PolicyStore) (p : Policy) : PolicyStore :=
  { s with policies := s.policies.append p.id p }

def addPolicySet (s : PolicyStore) (p : PolicySet) : PolicyStore :=
  { s with policySets := s.policySets.append p.id p }

/-- By their ids, and then in the order in which they were added. -/
def allPolicies (s : PolicyStore) : List Policy := s.policies.values.flatten

def allPolicySets (s : PolicyStore) : List PolicySet := s.policySets.values.flatten

def isEmpty (s : PolicyStore) : Bool := s.policies.isEmpty && s.policySets.isEmpty

def toRepository (s : PolicyStore) : PolicyRepository where
  policy? id constraints :=
    latestAdmitted (·.heading.version) constraints ((s.policies.get? id).getD [])
  policySet? id constraints :=
    latestAdmitted (·.heading.version) constraints ((s.policySets.get? id).getD [])

end PolicyStore

end PolicyDecision
