import PolicyDecision.Evaluation.PolicySet
import PolicyDecision.Request.Individual
import PolicyDecision.Validation.Basic

/-! The decision point: policies that have been checked, and the evaluation of requests. -/

namespace PolicyDecision

structure Configuration where
  defaultVersion : Version := .v3_0
  maxReferenceDepth : Nat := 32
  returnPolicyIds : Bool := false
  supplyClock : Bool := true
  deriving Repr, DecidableEq

/-- What a decision point is made of. The external repository is asked for what the store does not
have, and is not checked. -/
structure Deployment where
  root : Option Root := none
  store : PolicyStore := {}
  external : Option PolicyRepository := none
  functions : List (String × CustomFunction) := []
  algorithms : List (String × CombiningAlgorithm) := []
  source : Option AttributeSource := none
  configuration : Configuration := {}

structure DecisionPoint where
  root : Root
  repository : PolicyRepository
  libraries : Libraries
  source : Option AttributeSource
  configuration : Configuration

namespace Deployment

/-- The standard libraries with the additions of the deployment. -/
def libraries (d : Deployment) : Libraries where
  functions := d.functions.foldl (fun r (uri, f) => r.register uri f) .standard
  algorithms := d.algorithms.foldl (fun r (uri, a) => r.register uri a) .standard

def repository (d : Deployment) : PolicyRepository :=
  match d.external with
  | some external => d.store.toRepository.orElse external
  | none => d.store.toRepository

def build (d : Deployment) : Except ConfigurationError DecisionPoint := do
  match d.root with
  | none => throw .missingPolicy
  | some root =>
    d.libraries.checkAll root d.store
    return ⟨root, d.repository, d.libraries, d.source, d.configuration⟩

end Deployment

namespace DecisionPoint

variable (p : DecisionPoint)

/-- A request without attributes in the default version. -/
def request : Request := { version := p.configuration.defaultVersion }

def environment (now : Calendar.DateTime) (r : Request) : Environment where
  version := r.version
  source := r.source p.source
  functions := p.libraries.functions
  algorithms := p.libraries.algorithms
  repository := p.repository
  maxReferenceDepth := p.configuration.maxReferenceDepth
  collectPolicies := r.returnPolicyIds || p.configuration.returnPolicyIds
  clock := if p.configuration.supplyClock then some now else none

def evaluateIndividual (now : Calendar.DateTime) (r : Request) :
    Except ConfigurationError EvaluationResult := do
  let result ← (p.environment now r).evaluateRoot p.root
  return { result with attributes := r.returned }

/-- An individual request that could not be made has an indeterminate result. -/
def evaluatePart (now : Calendar.DateTime) (part : Outcome Request) :
    Except ConfigurationError EvaluationResult :=
  match part with
  | .ok r => p.evaluateIndividual now r
  | .error e => .ok (.indeterminate e)

/-- One result for each individual request, or one for all if a combined decision is asked for. -/
def evaluate (now : Calendar.DateTime) (r : Request) :
    Except ConfigurationError (List EvaluationResult) := do
  let results ← r.individuals.mapM (p.evaluatePart now)
  return if r.combinedDecision && decide (1 < results.length) then [.combine results] else results

end DecisionPoint

end PolicyDecision
