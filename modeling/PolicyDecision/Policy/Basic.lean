import PolicyDecision.Catalogue
import PolicyDecision.Decision
import PolicyDecision.Policy.Version
import PolicyDecision.Target

/-! Rules, policies and policy sets. -/

namespace PolicyDecision

structure Assignment where
  attributeId : String
  category : Option String := none
  issuer : Option String := none
  expression : Expression

/-- An obligation or a piece of advice that goes with decisions of its effect. -/
structure ObligationExpression where
  id : String
  effect : Effect
  assignments : List Assignment := []

structure Rule where
  id : String
  effect : Effect
  description : Option String := none
  target : Option Target := none
  condition : Option Expression := none
  obligations : List ObligationExpression := []
  advice : List ObligationExpression := []

structure VariableDefinition where
  id : String
  expression : Expression

/-- A parameter for a combining algorithm. -/
structure Parameter where
  name : String
  literal : Literal
  deriving Repr, DecidableEq

/-- What policies and policy sets have in common. The children are the rules of a policy, or what
a policy set contains; their parameters are filed under their ids. -/
structure Heading where
  id : String
  version : String := "1.0"
  description : Option String := none
  target : Option Target := none
  algorithm : String
  parameters : List Parameter := []
  childParameters : Catalogue (List Parameter) := ∅
  obligations : List ObligationExpression := []
  advice : List ObligationExpression := []

def Heading.parametersOf (h : Heading) (child : String) : List Parameter :=
  (h.childParameters.get? child).getD []

structure Policy where
  heading : Heading
  definitions : List VariableDefinition := []
  rules : List Rule := []

def Policy.id (p : Policy) : String := p.heading.id

/-- A reference to a policy or to a policy set. -/
structure Reference where
  id : String
  constraints : VersionConstraints := {}
  deriving Repr, DecidableEq

inductive PolicyNode
  | policy (p : Policy)
  | policySet (heading : Heading) (children : List PolicyNode)
  | policyRef (r : Reference)
  | policySetRef (r : Reference)

structure PolicySet where
  heading : Heading
  children : List PolicyNode := []

namespace PolicySet

def id (s : PolicySet) : String := s.heading.id

def toNode (s : PolicySet) : PolicyNode := .policySet s.heading s.children

end PolicySet

/-- The id under which a policy set files the parameters of a child. -/
def PolicyNode.id : PolicyNode → String
  | policy p => p.id
  | policySet heading _ => heading.id
  | policyRef r | policySetRef r => r.id

/-- Where the evaluation of a request begins. -/
inductive Root
  | policy (p : Policy)
  | policySet (s : PolicySet)

end PolicyDecision
