import PolicyDecision.Combining.Registry
import PolicyDecision.Function.Registry
import PolicyDecision.Policy.Repository
import PolicyDecision.Validation.Variables

/-! Checks of policies before any request is evaluated. The first fault is reported. -/

namespace PolicyDecision

/-- What policies may refer to. -/
structure Libraries where
  functions : FunctionRegistry
  algorithms : AlgorithmRegistry

abbrev Check := Except ConfigurationError Unit

namespace Validation

def checkType (uri : String) : Check :=
  if (DataType.ofUri? uri).isSome then .ok () else .error (.unknownDataType uri)

def checkVersion (owner version : String) : Check :=
  match VersionNumber.read version with
  | .ok _ => .ok ()
  | .error e => .error (.malformed owner (.badVersion e))

def checkPattern (owner reference pattern : String) : Check :=
  match VersionPattern.read pattern with
  | .ok _ => .ok ()
  | .error e => .error (.malformed owner (.badReferencePattern reference e))

def checkReference (owner : String) (r : Reference) : Check :=
  r.constraints.patterns.forM (checkPattern owner r.id)

/-- The first text that stands further in front as well. -/
def firstRepeated (seen : List String) : List String → Option String
  | [] => none
  | id :: ids => if seen.contains id then some id else firstRepeated (id :: seen) ids

def checkDistinct (ids : List String) (repeated : String → ConfigurationError) : Check :=
  match firstRepeated [] ids with
  | some id => .error (repeated id)
  | none => .ok ()

def checkCycles (definitions : List VariableDefinition) : Check :=
  match findCycle? definitions with
  | some path => .error (.cyclicVariables path)
  | none => .ok ()

def checkParameters (parameters : List Parameter) : Check :=
  parameters.forM fun p => checkType p.literal.dataType

end Validation

namespace Libraries

open Validation

variable (l : Libraries)

def checkFunction (uri : String) : Check :=
  if l.functions.contains uri then .ok () else .error (.unknownFunction uri)

def checkAlgorithm (uri : String) : Check :=
  if l.algorithms.contains uri then .ok () else .error (.unknownAlgorithm uri)

def checkMatch (m : Match) : Check := do
  l.checkFunction m.function
  checkType m.literal.dataType
  checkType m.attributes.dataType

def checkTarget (target : Option Target) : Check :=
  (target.toList.flatMap Target.matchList).forM l.checkMatch

variable (owner : String) (defined : List String)

mutual

/-- The variables that are defined where the expression stands are given. -/
def checkExpression : Expression → Check
  | .literal literal => checkType literal.dataType
  | .designator d => checkType d.dataType
  | .selector s => checkType s.dataType
  | .variableRef id =>
    if defined.contains id then .ok () else .error (.undefinedVariable owner id)
  | .function uri => l.checkFunction uri
  | .apply uri args => do
    l.checkFunction uri
    checkExpressions args

def checkExpressions : List Expression → Check
  | [] => .ok ()
  | e :: es => do
    checkExpression e
    checkExpressions es

end

def checkObligations (obligations : List ObligationExpression) : Check :=
  (obligations.flatMap (·.assignments)).forM fun a =>
    l.checkExpression owner defined a.expression

def checkRule (r : Rule) : Check := do
  l.checkTarget r.target
  r.condition.toList.forM (l.checkExpression owner defined)
  l.checkObligations owner defined r.obligations
  l.checkObligations owner defined r.advice

/-- Parameters must be those of a rule of the policy. -/
def checkRuleParameters (rules : List String) (entry : String × List Parameter) : Check := do
  if !rules.contains entry.1 then
    throw (.malformed owner (.parametersOfUnknownRule entry.1))
  checkParameters entry.2

omit owner defined in
def checkPolicy (p : Policy) : Check := do
  let h := p.heading
  let rules := p.rules.map (·.id)
  let defined := p.definitions.map (·.id)
  checkVersion h.id h.version
  l.checkAlgorithm h.algorithm
  checkDistinct rules (.duplicateRule h.id)
  checkDistinct defined (.duplicateVariable h.id)
  p.definitions.forM fun v => l.checkExpression h.id defined v.expression
  checkCycles p.definitions
  l.checkTarget h.target
  checkParameters h.parameters
  h.childParameters.entries.forM (checkRuleParameters h.id rules)
  p.rules.forM (l.checkRule h.id defined)
  l.checkObligations h.id defined h.obligations
  l.checkObligations h.id defined h.advice

def checkHeading (h : Heading) : Check := do
  checkVersion h.id h.version
  l.checkAlgorithm h.algorithm
  l.checkTarget h.target
  checkParameters h.parameters
  h.childParameters.values.forM checkParameters

mutual

def checkNode (owner : String) : PolicyNode → Check
  | .policy p => l.checkPolicy p
  | .policySet h children => do
    l.checkHeading h
    checkNodes h.id children
    l.checkObligations h.id [] h.obligations
    l.checkObligations h.id [] h.advice
  | .policyRef r | .policySetRef r => checkReference owner r

def checkNodes (owner : String) : List PolicyNode → Check
  | [] => .ok ()
  | c :: cs => do
    checkNode owner c
    checkNodes owner cs

end

def checkPolicySet (s : PolicySet) : Check := l.checkNode s.id s.toNode

def checkRoot : Root → Check
  | .policy p => l.checkPolicy p
  | .policySet s => l.checkPolicySet s

/-- The root first, then what is stored for references. -/
def checkAll (root : Root) (store : PolicyStore) : Check := do
  l.checkRoot root
  store.allPolicies.forM l.checkPolicy
  store.allPolicySets.forM l.checkPolicySet

end Libraries

end PolicyDecision
