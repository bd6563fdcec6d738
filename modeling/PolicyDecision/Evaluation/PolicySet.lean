import PolicyDecision.Evaluation.Policy

/-! Evaluation of policy sets and of the references in them. -/

namespace PolicyDecision.Environment

open NodeEvaluation

variable (env : Environment)

/-- A reference is refused when too many have been followed to it. -/
def checkDepth (r : Reference) : NodeEvaluation (Outcome Unit) := do
  if env.maxReferenceDepth ≤ (← get).followed then
    return .error (.referenceTooDeep r.id env.maxReferenceDepth)
  return .ok ()

/-- A reference to a policy set is refused when a set of that id is being evaluated. -/
def checkCycle (r : Reference) : NodeEvaluation (Outcome Unit) := do
  if (← get).enclosing.contains r.id then return .error (.referenceCycle r.id)
  return .ok ()

def resolvePolicy (r : Reference) : NodeEvaluation (Outcome Policy) := do
  match ← env.checkDepth r with
  | .error e => return .error e
  | .ok () =>
    match env.repository.policy? r.id r.constraints with
    | some p => return .ok p
    | none => return .error (.referenceNotFound r.id)

def resolvePolicySet (r : Reference) : NodeEvaluation (Outcome PolicySet) := do
  match ← env.checkDepth r with
  | .error e => return .error e
  | .ok () =>
    match ← checkCycle r with
    | .error e => return .error e
    | .ok () =>
      match env.repository.policySet? r.id r.constraints with
      | some s => return .ok s
      | none => return .error (.referenceNotFound r.id)

/-- Evaluates what a reference leads to. -/
def follow (resolved : NodeEvaluation (Outcome α)) (evaluate : α → NodeEvaluation Decision) :
    NodeEvaluation Decision := do
  match ← resolved with
  | .ok a => behindReference (evaluate a)
  | .error e => failed env.version none e

/-- Looks at the target of a child. -/
def probeNode : PolicyNode → NodeEvaluation MatchResult
  | .policy p => ofResult (env.matchTarget p.heading.target)
  | .policySet h _ => ofResult (env.matchTarget h.target)
  | .policyRef r => do
    match ← env.resolvePolicy r with
    | .ok p => ofResult (env.matchTarget p.heading.target)
    | .error e => return .indeterminate e
  | .policySetRef r => do
    match ← env.resolvePolicySet r with
    | .ok s => ofResult (env.matchTarget s.heading.target)
    | .error e => return .indeterminate e

/-- Evaluates a policy set, given its children. -/
def evaluateSet (h : Heading) (children : List (Child NodeEvaluation)) : NodeEvaluation Decision :=
  env.whenApplicable h fun targetFailed =>
    withinSet h.id <| env.collecting .policySet h [] <| env.combine h children targetFailed

variable (enter : PolicySet → NodeEvaluation Decision)

mutual

/-- Evaluates a child of a policy set, given how a policy set behind a reference is evaluated. -/
def evaluateNode : PolicyNode → NodeEvaluation Decision
  | .policy p => env.evaluatePolicy p
  | .policySet h children => env.evaluateSet h (nodeChildren h children)
  | .policyRef r => env.follow (env.resolvePolicy r) env.evaluatePolicy
  | .policySetRef r => env.follow (env.resolvePolicySet r) enter

def nodeChildren (h : Heading) : List PolicyNode → List (Child NodeEvaluation)
  | [] => []
  | c :: cs =>
    ⟨⟨none, h.parametersOf c.id⟩, evaluateNode c, env.probeNode c⟩ :: nodeChildren h cs

end

/-- Evaluates a policy set behind a reference, when so many references may still be followed, that
one included. Where none may, a reference has been refused before it gets here. -/
def enterSet : Nat → PolicySet → NodeEvaluation Decision
  | 0, _ => pure (env.version.indeterminate none)
  | budget + 1, s => env.evaluateNode (enterSet budget) s.toNode

/-- Evaluates a child of a policy set. -/
def evaluateChild (child : PolicyNode) : NodeEvaluation Decision := do
  env.evaluateNode (env.enterSet (env.maxReferenceDepth - (← get).followed)) child

def evaluatePolicySet (s : PolicySet) : NodeEvaluation Decision := env.evaluateChild s.toNode

/-- The result for a request. An indeterminate decision is explained by the first error. -/
def result (decision : Decision) (progress : Progress) : EvaluationResult where
  decision := decision
  status :=
    if decision.isIndeterminate then .ofError (progress.firstError.getD .undecided) else .ok
  obligations := progress.findings.obligations
  advice := progress.findings.advice
  applicablePolicies := progress.findings.policies.map (·.1)

def evaluateRoot (root : Root) : Except ConfigurationError EvaluationResult :=
  let (decision, progress) := (match root with
    | .policy p => env.evaluatePolicy p
    | .policySet s => env.evaluatePolicySet s).run {}
  decision.map fun d => result d progress

end PolicyDecision.Environment
