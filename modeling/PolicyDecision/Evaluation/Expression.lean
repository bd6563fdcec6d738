import PolicyDecision.Evaluation.Environment
import PolicyDecision.Response

/-! Evaluation of expressions. The values of variables are kept while one policy is evaluated. -/

namespace PolicyDecision

/-- What is known of a variable: that its evaluation has begun, or its outcome. -/
inductive VariableState
  | pending
  | done (result : Outcome Evaluated)

abbrev VariableStates := Catalogue VariableState

/-- A computation that keeps the values of variables, also when it fails. -/
abbrev Evaluation := ExceptT Fault (StateM VariableStates)

namespace Evaluation

def ofResult (x : Except Fault α) : Evaluation α := ExceptT.mk (pure x)

def ofOutcome (x : Outcome α) : Evaluation α := ofResult (x.mapError .evaluation)

def fail (e : EvaluationError) : Evaluation α := throw (.evaluation e)

/-- The outcome of a computation as a result. Errors of the configuration are passed on. -/
def outcome (x : Evaluation α) : Evaluation (Outcome α) :=
  tryCatch (.ok <$> x) fun
    | .evaluation e => pure (.error e)
    | .configuration e => throw (.configuration e)

end Evaluation

namespace Expression

variable (env : Environment)

def resolveFunction (uri : String) : Evaluation FunctionRef :=
  .ofResult ((env.functions.require uri).mapError .configuration)

/-- Calls a function. Its errors are marked with its URI. -/
def callFunction (f : FunctionRef) (args : Arguments) : Evaluation Evaluated :=
  .ofOutcome ((env.call f args).mapError (.raisedBy f.uri))

variable (valueOf : String → Evaluation Evaluated)

mutual

/-- The value of an expression, given the values of variables. -/
def evaluateWith : Expression → Evaluation Evaluated
  | literal l => .value <$> .ofResult l.resolve
  | designator d => .bag <$> .ofResult (env.designate d)
  | selector s => .bag <$> .ofResult (env.select s)
  | variableRef id => valueOf id
  | function uri => .function <$> resolveFunction env uri
  | apply uri args => do
    let f ← resolveFunction env uri
    callFunction env f (← evaluateAllWith args)

def evaluateAllWith : List Expression → Evaluation (List Evaluated)
  | [] => pure []
  | e :: es => do
    let v ← evaluateWith e
    return v :: (← evaluateAllWith es)

end

end Expression

/-- The first definition of a variable. -/
def definition? (definitions : List VariableDefinition) (id : String) :
    Option VariableDefinition :=
  definitions.find? (·.id == id)

namespace Environment

variable (env : Environment)

/-- The value of a variable, if it is known, or from its definition. Each level of the recursion
marks one more definition as pending. -/
def variableValue (definitions : List VariableDefinition) : Nat → String → Evaluation Evaluated
  | 0, id => .fail (.circularVariable id)
  | depth + 1, id =>
    match definition? definitions id with
    | none => .fail (.undefinedVariable id)
    | some definition => do
      match (← get).get? id with
      | some (.done result) => .ofOutcome result
      | some .pending => .fail (.circularVariable id)
      | none => do
        modify (·.insert id .pending)
        let result ← Evaluation.outcome
          (definition.expression.evaluateWith env (variableValue definitions depth))
        modify (·.insert id (.done result))
        .ofOutcome result

/-- The value of an expression among the definitions of a policy. No more variables than there are
definitions can be pending. -/
def evaluate (definitions : List VariableDefinition) (e : Expression) : Evaluation Evaluated :=
  e.evaluateWith env (env.variableValue definitions (definitions.length + 1))

/-- A condition must be a boolean. -/
def evaluateCondition (definitions : List VariableDefinition) (e : Expression) :
    Evaluation Bool := do
  match ← env.evaluate definitions e with
  | .value (.boolean b) => return b
  | other => .fail (.conditionNotBoolean other.found)

/-- One attribute for each value of an assignment. -/
def evaluateAssignment (definitions : List VariableDefinition) (a : Assignment) :
    Evaluation (List AssignedAttribute) := do
  let values ← match ← env.evaluate definitions a.expression with
    | .value v => pure [v]
    | .bag b => pure b.values
    | .function f => .fail (.functionAssigned a.attributeId f.uri)
  return values.map fun v => ⟨a.attributeId, a.category, a.issuer, v⟩

/-- The obligations for an effect, with their values. -/
def evaluateObligations (definitions : List VariableDefinition) (effect : Effect)
    (expressions : List ObligationExpression) : Evaluation (List Obligation) :=
  (expressions.filter (·.effect == effect)).mapM fun o => do
    let assignments ← o.assignments.mapM (env.evaluateAssignment definitions)
    return ⟨o.id, effect, assignments.flatten⟩

end Environment

end PolicyDecision
