import PolicyDecision.Request.Basic

/-! Results of the evaluation of a request. -/

namespace PolicyDecision

structure Status where
  code : StatusCode
  message : Option String := none
  deriving Repr, DecidableEq

namespace Status

def ok : Status := ⟨.ok, none⟩

def ofError (e : EvaluationError) : Status := ⟨e.status, some e.message⟩

/-- The URI of the code, and the message if there is one. -/
def written (s : Status) : String :=
  match s.message with
  | some message => s.code.uri ++ ": " ++ message
  | none => s.code.uri

end Status

structure AssignedAttribute where
  attributeId : String
  category : Option String
  issuer : Option String
  value : Value

/-- An obligation or a piece of advice with its values. -/
structure Obligation where
  id : String
  effect : Effect
  assignments : List AssignedAttribute

/-- Obligations and advice. -/
structure Duties where
  obligations : List Obligation := []
  advice : List Obligation := []

inductive PolicyKind
  | policy
  | policySet
  deriving Repr, DecidableEq

structure PolicyIdentifier where
  kind : PolicyKind
  id : String
  version : String
  deriving Repr, DecidableEq

structure EvaluationResult where
  decision : Decision
  status : Status
  obligations : List Obligation := []
  advice : List Obligation := []
  attributes : List Block := []
  applicablePolicies : List PolicyIdentifier := []

namespace EvaluationResult

def indeterminate (e : EvaluationError) : EvaluationResult :=
  { decision := .indeterminate, status := .ofError e }

/-- The first obligation with an id. -/
def obligation? (r : EvaluationResult) (id : String) : Option Obligation :=
  r.obligations.find? (·.id == id)

end EvaluationResult

end PolicyDecision
