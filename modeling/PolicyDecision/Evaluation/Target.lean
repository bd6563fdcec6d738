import PolicyDecision.Evaluation.Environment

/-! Targets compared with a request. The outcome has three values, and an error that could still be
outweighed is kept until the outcome is certain. -/

namespace PolicyDecision.Environment

variable (env : Environment)

/-- Compares a literal with the values of an attribute until one matches. -/
def matchValues (f : FunctionRef) (literal : Value) (error : Option EvaluationError) :
    List Value → MatchResult
  | [] => (error.map .indeterminate).getD .noMatch
  | v :: vs =>
    match env.call f [.value literal, .value v] with
    | .ok (.value (.boolean true)) => .isMatch
    | .ok (.value (.boolean false)) => matchValues f literal error vs
    | .ok other =>
      matchValues f literal (error.or (some (.matchNotBoolean f.uri other.kind))) vs
    | .error e => matchValues f literal (error.or (some (.raisedBy f.uri e))) vs

/-- Goes on with a result, or ends in an indeterminate one. -/
def orIndeterminate (result : Except Fault α)
    (next : α → Except ConfigurationError MatchResult) : Except ConfigurationError MatchResult :=
  match result with
  | .ok a => next a
  | .error (.evaluation e) => .ok (.indeterminate e)
  | .error (.configuration e) => .error e

def matchOne (m : Match) : Except ConfigurationError MatchResult := do
  let f ← env.functions.require m.function
  orIndeterminate m.literal.resolve fun literal =>
    orIndeterminate (env.attributes m.attributes) fun bag =>
      .ok (env.matchValues f literal none bag.values)

/-- All comparisons must match. One that does not outweighs errors. -/
def matchAll (error : Option EvaluationError) :
    List Match → Except ConfigurationError MatchResult
  | [] => .ok ((error.map .indeterminate).getD .isMatch)
  | m :: ms => do
    match ← env.matchOne m with
    | .isMatch => matchAll error ms
    | .noMatch => return .noMatch
    | .indeterminate e => matchAll (error.or (some e)) ms

/-- One alternative must match. One that does outweighs errors. -/
def matchAlternatives (error : Option EvaluationError) :
    List AllOf → Except ConfigurationError MatchResult
  | [] => .ok ((error.map .indeterminate).getD .noMatch)
  | a :: as => do
    match ← env.matchAll none a.matchList with
    | .isMatch => return .isMatch
    | .noMatch => matchAlternatives error as
    | .indeterminate e => matchAlternatives (error.or (some e)) as

/-- Without alternatives there is nothing to match. -/
def matchAnyOf (a : AnyOf) : Except ConfigurationError MatchResult :=
  if a.alternatives.isEmpty then .ok .isMatch else env.matchAlternatives none a.alternatives

/-- An error outweighs everything, before it and after it. -/
def matchAnyOfs (result : MatchResult) : List AnyOf → Except ConfigurationError MatchResult
  | [] => .ok result
  | a :: as => do
    match ← env.matchAnyOf a with
    | .isMatch => matchAnyOfs result as
    | .noMatch => matchAnyOfs .noMatch as
    | .indeterminate e => return .indeterminate e

/-- A node without a target matches every request. -/
def matchTarget : Option Target → Except ConfigurationError MatchResult
  | none => .ok .isMatch
  | some t => env.matchAnyOfs .isMatch t.anyOfs

end PolicyDecision.Environment
