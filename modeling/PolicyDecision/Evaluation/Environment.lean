import PolicyDecision.Combining.Registry
import PolicyDecision.Function.Registry
import PolicyDecision.Policy.Repository

/-! What stays the same during the evaluation of one individual request, and the attribute values
that can be found there. -/

namespace PolicyDecision

structure Environment where
  version : Version
  source : AttributeSource
  functions : FunctionRegistry
  algorithms : AlgorithmRegistry
  repository : PolicyRepository
  maxReferenceDepth : Nat
  collectPolicies : Bool
  /-- The time that answers for the current date and time of the environment. -/
  clock : Option Calendar.DateTime

namespace Environment

def functionContext (env : Environment) : FunctionContext := ⟨env.version, env.source⟩

def call (env : Environment) (f : FunctionRef) (args : Arguments) : Outcome Evaluated :=
  env.functions.call env.functionContext f args

def environmentCategory : String :=
  "urn:oasis:names:tc:xacml:3.0:attribute-category:environment"

def currentTime : String := "urn:oasis:names:tc:xacml:1.0:environment:current-time"

def currentDate : String := "urn:oasis:names:tc:xacml:1.0:environment:current-date"

def currentDateTime : String := "urn:oasis:names:tc:xacml:1.0:environment:current-dateTime"

/-- The clock answers only in its category and with the type of the attribute. -/
def clockValue? (env : Environment) (d : Designator) (type : DataType) : Option Value :=
  match env.clock with
  | none => none
  | some now =>
    if d.category ≠ environmentCategory then none
    else if d.attributeId = currentTime ∧ type = .time then some (.time now.time)
    else if d.attributeId = currentDate ∧ type = .date then some (.date now.date)
    else if d.attributeId = currentDateTime ∧ type = .dateTime then some (.dateTime now)
    else none

def requireType (uri : String) : Except Fault DataType :=
  match DataType.ofUri? uri with
  | some type => .ok type
  | none => .error (.configuration (.unknownDataType uri))

/-- Every text must be a value of the type. -/
def readBag (type : DataType) (texts : List String) : Except EvaluationError Bag :=
  match texts.mapM (Value.read type) with
  | .ok values => .ok ⟨type, values⟩
  | .error e => .error (.lexical e)

/-- The values of an attribute. The clock is asked if there are none. -/
def designate (env : Environment) (d : Designator) : Except Fault Bag := do
  let type ← requireType d.dataType
  let query : AttributeQuery := ⟨d.category, d.attributeId, d.dataType, d.issuer⟩
  let texts ← (env.source.values query).mapError .evaluation
  let found ← (readBag type texts).mapError .evaluation
  let bag := if found.isEmpty then ⟨type, (env.clockValue? d type).toList⟩ else found
  if bag.isEmpty && d.mustBePresent then
    throw (.evaluation (.attributeMissing d.attributeId d.dataType d.category))
  return bag

/-- The values that a path selects. -/
def select (env : Environment) (s : Selector) : Except Fault Bag := do
  let type ← requireType s.dataType
  let query : PathQuery := ⟨env.version, s.path, s.category, s.contextSelector, s.namespaces⟩
  let texts ← (env.source.select query).mapError .evaluation
  let bag ← (readBag type texts).mapError .evaluation
  if bag.isEmpty && s.mustBePresent then throw (.evaluation (.nothingSelected s.path))
  return bag

def attributes (env : Environment) : AttributeRef → Except Fault Bag
  | .designator d => env.designate d
  | .selector s => env.select s

end Environment

end PolicyDecision
