import PolicyDecision.Evaluation.Node

/-! Evaluation of rules and policies. -/

namespace PolicyDecision.Environment

open NodeEvaluation

variable (env : Environment)

/-- A rule without a target has that of its policy. -/
def targetOf (p : Policy) (r : Rule) : Option Target := r.target.or p.heading.target

/-- The obligations and the advice of rules count since version 3.0. -/
def concludeRule (p : Policy) (r : Rule) : NodeEvaluation Decision := do
  if env.version.isExtended then
    match ← outcome (env.evaluateDuties p.definitions r.effect r.obligations r.advice) with
    | .ok duties =>
      modifyFindings (·.addDuties duties)
      return r.effect.decision
    | .error e => failed env.version r.effect e
  else return r.effect.decision

/-- Evaluates a rule whose target matches. -/
def evaluateMatchingRule (p : Policy) (r : Rule) : NodeEvaluation Decision :=
  match r.condition with
  | none => env.concludeRule p r
  | some condition => do
    match ← outcome (env.evaluateCondition p.definitions condition) with
    | .ok true => env.concludeRule p r
    | .ok false => return .notApplicable
    | .error e => failed env.version r.effect e

def evaluateRule (p : Policy) (r : Rule) : NodeEvaluation Decision := do
  match ← ofResult (env.matchTarget (targetOf p r)) with
  | .isMatch => env.evaluateMatchingRule p r
  | .noMatch => return .notApplicable
  | .indeterminate e => failed env.version r.effect e

def probeRule (p : Policy) (r : Rule) : NodeEvaluation MatchResult :=
  ofResult (env.matchTarget (targetOf p r))

def ruleChild (p : Policy) (r : Rule) : Child NodeEvaluation :=
  ⟨⟨some r.effect, p.heading.parametersOf r.id⟩, env.evaluateRule p r, env.probeRule p r⟩

/-- The variables are those of this policy only. -/
def evaluatePolicy (p : Policy) : NodeEvaluation Decision :=
  withFreshVariables <| env.whenApplicable p.heading fun targetFailed =>
    env.collecting .policy p.heading p.definitions <|
      env.combine p.heading (p.rules.map (env.ruleChild p)) targetFailed

end PolicyDecision.Environment
