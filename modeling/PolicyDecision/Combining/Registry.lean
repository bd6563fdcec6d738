import PolicyDecision.Combining.Overrides
import PolicyDecision.Combining.Applicable

/-! Combining algorithms under their URIs. -/

namespace PolicyDecision

inductive StandardAlgorithm
  | denyOverrides
  | permitOverrides
  | firstApplicable
  | onlyOneApplicable
  | denyUnlessPermit
  | permitUnlessDeny
  deriving Repr, DecidableEq

/-- The overriding of one effect by the other, as a version understands it. -/
def Combining.overrides (dominant : Effect) : CombiningAlgorithm := fun n children _ version =>
  if version.isExtended then extendedOverrides dominant n
  else legacyOverrides dominant fun i => (children i).hint

namespace StandardAlgorithm

def algorithm : StandardAlgorithm → CombiningAlgorithm
  | denyOverrides => Combining.overrides .deny
  | permitOverrides => Combining.overrides .permit
  | firstApplicable => Combining.firstApplicable
  | onlyOneApplicable => Combining.onlyOneApplicable
  | denyUnlessPermit => Combining.byDefault .deny
  | permitUnlessDeny => Combining.byDefault .permit

def ruleUri (version name : String) : String :=
  "urn:oasis:names:tc:xacml:" ++ version ++ ":rule-combining-algorithm:" ++ name

def policyUri (version name : String) : String :=
  "urn:oasis:names:tc:xacml:" ++ version ++ ":policy-combining-algorithm:" ++ name

/-- The version and the name of an algorithm for rules as well as for policies. The children are
visited in order, so that the ordered forms are no different. -/
def shared : List (String × String × StandardAlgorithm) :=
  [("1.0", "deny-overrides", denyOverrides), ("1.1", "ordered-deny-overrides", denyOverrides),
    ("3.0", "deny-overrides", denyOverrides), ("3.0", "ordered-deny-overrides", denyOverrides),
    ("1.0", "permit-overrides", permitOverrides),
    ("1.1", "ordered-permit-overrides", permitOverrides),
    ("3.0", "permit-overrides", permitOverrides),
    ("3.0", "ordered-permit-overrides", permitOverrides),
    ("1.0", "first-applicable", firstApplicable),
    ("3.0", "deny-unless-permit", denyUnlessPermit),
    ("3.0", "permit-unless-deny", permitUnlessDeny)]

/-- Every URI of a standard algorithm. -/
def library : List (String × StandardAlgorithm) :=
  (policyUri "1.0" "only-one-applicable", onlyOneApplicable) ::
    shared.flatMap fun (version, name, a) =>
      [(ruleUri version name, a), (policyUri version name, a)]

end StandardAlgorithm

structure AlgorithmRegistry where
  algorithms : Catalogue CombiningAlgorithm

namespace AlgorithmRegistry

def empty : AlgorithmRegistry := ⟨∅⟩

def standard : AlgorithmRegistry :=
  ⟨.ofList (StandardAlgorithm.library.map fun (uri, a) => (uri, a.algorithm))⟩

def contains (r : AlgorithmRegistry) (uri : String) : Bool := r.algorithms.contains uri

def size (r : AlgorithmRegistry) : Nat := r.algorithms.size

def isEmpty (r : AlgorithmRegistry) : Bool := r.algorithms.isEmpty

/-- Adds an algorithm, or replaces the one under the URI. -/
def register (r : AlgorithmRegistry) (uri : String) (a : CombiningAlgorithm) :
    AlgorithmRegistry :=
  ⟨r.algorithms.insert uri a⟩

def require (r : AlgorithmRegistry) (uri : String) :
    Except ConfigurationError CombiningAlgorithm :=
  match r.algorithms.get? uri with
  | some a => .ok a
  | none => .error (.unknownAlgorithm uri)

end AlgorithmRegistry

end PolicyDecision
