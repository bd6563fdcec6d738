import PolicyDecision.Evaluation.Progress
import PolicyDecision.Evaluation.Target

/-! What the evaluation of a policy and that of a policy set have in common. -/

namespace PolicyDecision.Environment

open NodeEvaluation

variable (env : Environment)

/-- Evaluates the obligations and the advice that go with an effect. -/
def evaluateDuties (definitions : List VariableDefinition) (effect : Effect)
    (obligations advice : List ObligationExpression) : Evaluation Duties := do
  let obligations ← env.evaluateObligations definitions effect obligations
  let advice ← env.evaluateObligations definitions effect advice
  return ⟨obligations, advice⟩

/-- Adds the duties of a node to the findings, together with those findings from within the node
that agree with its decision. If the duties cannot be evaluated the decision is indeterminate and
nothing is added. -/
def conclude (h : Heading) (definitions : List VariableDefinition) (decision : Decision)
    (inner : Findings) : NodeEvaluation Decision :=
  match decision.effect? with
  | none => return decision
  | some effect => do
    match ← outcome (env.evaluateDuties definitions effect h.obligations h.advice) with
    | .ok duties =>
      modifyFindings fun findings => (findings.adopt inner effect).addDuties duties
      return decision
    | .error e => failed env.version effect e

/-- Runs the body of a node and concludes it. A node that applies is listed. -/
def collecting (kind : PolicyKind) (h : Heading) (definitions : List VariableDefinition)
    (body : NodeEvaluation Decision) : NodeEvaluation Decision := do
  let (decision, inner) ← withFreshFindings body
  let decision ← env.conclude h definitions decision inner
  if env.collectPolicies && decision != .notApplicable then
    modifyFindings (·.addPolicy ⟨kind, h.id, h.version⟩ decision.effect?)
  return decision

/-- Evaluates a node whose target matches. A target that cannot be evaluated makes the node
indeterminate before version 3.0; since then the body is evaluated nevertheless, and is told. -/
def whenApplicable (h : Heading) (body : Bool → NodeEvaluation Decision) :
    NodeEvaluation Decision := do
  match ← ofResult (env.matchTarget h.target) with
  | .isMatch => body false
  | .noMatch => return .notApplicable
  | .indeterminate e =>
    if env.version.isExtended then
      record e
      body true
    else failed env.version none e

/-- Before version 3.0 a node in which no child applied does not apply, whatever the algorithm
says. A target that could not be evaluated weakens the decision. -/
def finalDecision (version : Version) (applied targetFailed : Bool) (d : Decision) : Decision :=
  if !version.isExtended && !applied then .notApplicable
  else if targetFailed then d.promoted
  else d

/-- Notes whether the child applied. -/
def noteDecision (x : NodeEvaluation Decision) : StateT Bool NodeEvaluation Decision := do
  let d ← x
  if d != .notApplicable then set true
  return d

/-- Notes whether the target of the child may match, and its error. -/
def noteMatch (x : NodeEvaluation MatchResult) : StateT Bool NodeEvaluation MatchResult := do
  let result ← x
  match result with
  | .noMatch => pure ()
  | .isMatch => set true
  | .indeterminate e =>
    set true
    record e
  return result

def noted (child : Child NodeEvaluation) : Child (StateT Bool NodeEvaluation) :=
  ⟨child.info, noteDecision child.evaluate, noteMatch child.probe⟩

/-- Combines the children by the algorithm of the node. -/
def combine (h : Heading) (children : List (Child NodeEvaluation)) (targetFailed : Bool) :
    NodeEvaluation Decision := do
  let algorithm ← ofResult (env.algorithms.require h.algorithm)
  let (decision, applied) ←
    (algorithm.run (children.map noted) h.parameters env.version).run false
  return finalDecision env.version applied targetFailed decision

end PolicyDecision.Environment
