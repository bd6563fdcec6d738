import PolicyDecision.Evaluation.Expression

/-! The state of the evaluation of one individual request, and computations on it. -/

namespace PolicyDecision

/-- What has been collected for the result. A policy that applied is listed with the effect of its
decision. -/
structure Findings where
  obligations : List Obligation := []
  advice : List Obligation := []
  policies : List (PolicyIdentifier × Option Effect) := []

namespace Findings

/-- Adds those of the inner findings that agree with an effect. -/
def adopt (outer inner : Findings) (effect : Effect) : Findings where
  obligations := outer.obligations ++ inner.obligations.filter (·.effect == effect)
  advice := outer.advice ++ inner.advice.filter (·.effect == effect)
  policies := outer.policies ++ inner.policies.filter (·.2 == some effect)

def addDuties (f : Findings) (d : Duties) : Findings :=
  { f with obligations := f.obligations ++ d.obligations, advice := f.advice ++ d.advice }

def addPolicy (f : Findings) (p : PolicyIdentifier) (effect : Option Effect) : Findings :=
  { f with policies := f.policies ++ [(p, effect)] }

end Findings

structure Progress where
  known : VariableStates := ∅
  findings : Findings := {}
  /-- The ids of the policy sets that are being evaluated, the innermost first. -/
  enclosing : List String := []
  /-- How many references have been followed to the present node. -/
  followed : Nat := 0
  firstError : Option EvaluationError := none

/-- The evaluation of a node of the policy tree. An error of the configuration ends it, and the
state is kept. -/
abbrev NodeEvaluation := ExceptT ConfigurationError (StateM Progress)

namespace NodeEvaluation

def ofResult (x : Except ConfigurationError α) : NodeEvaluation α := ExceptT.mk (pure x)

/-- Evaluates expressions with the variables of the state. -/
def outcome (x : Evaluation α) : NodeEvaluation (Outcome α) := fun progress =>
  let (result, known) := x progress.known
  let progress := { progress with known }
  match result with
  | .ok a => (.ok (.ok a), progress)
  | .error (.evaluation e) => (.ok (.error e), progress)
  | .error (.configuration e) => (.error e, progress)

/-- Runs a computation without known variables, and afterwards restores those known before. -/
def withFreshVariables (x : NodeEvaluation α) : NodeEvaluation α := fun progress =>
  let (result, inner) := x { progress with known := ∅ }
  (result, { inner with known := progress.known })

/-- Runs a computation without findings. Its own are returned, and those from before restored. -/
def withFreshFindings (x : NodeEvaluation α) : NodeEvaluation (α × Findings) := fun progress =>
  let (result, inner) := x { progress with findings := {} }
  (result.map fun a => (a, inner.findings), { inner with findings := progress.findings })

/-- Runs a computation within a policy set. -/
def withinSet (id : String) (x : NodeEvaluation α) : NodeEvaluation α := fun progress =>
  let (result, inner) := x { progress with enclosing := id :: progress.enclosing }
  (result, { inner with enclosing := inner.enclosing.tail })

/-- Runs a computation behind a reference. -/
def behindReference (x : NodeEvaluation α) : NodeEvaluation α := fun progress =>
  let (result, inner) := x { progress with followed := progress.followed + 1 }
  (result, { inner with followed := inner.followed - 1 })

/-- Keeps the first error of the request. -/
def record (e : EvaluationError) : NodeEvaluation Unit :=
  modify fun progress => { progress with firstError := progress.firstError.or (some e) }

def modifyFindings (f : Findings → Findings) : NodeEvaluation Unit :=
  modify fun progress => { progress with findings := f progress.findings }

/-- The decision of a node that failed. `possible` is the only effect that it could have had, if it
could not have had both. -/
def failed (version : Version) (possible : Option Effect) (e : EvaluationError) :
    NodeEvaluation Decision := do
  record e
  return version.indeterminate possible

end NodeEvaluation

end PolicyDecision
