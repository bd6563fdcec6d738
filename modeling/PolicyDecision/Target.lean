import PolicyDecision.Expression

/-! Targets, which say to what requests a rule, a policy or a policy set applies. -/

namespace PolicyDecision

inductive AttributeRef
  | designator (d : Designator)
  | selector (s : Selector)
  deriving Repr, DecidableEq

def AttributeRef.dataType : AttributeRef → String
  | designator d => d.dataType
  | selector s => s.dataType

/-- Compares a literal with each value of an attribute. -/
structure Match where
  function : String
  literal : Literal
  attributes : AttributeRef
  deriving Repr, DecidableEq

structure AllOf where
  matchList : List Match
  deriving Repr, DecidableEq

structure AnyOf where
  alternatives : List AllOf
  deriving Repr, DecidableEq

/-- A conjunction of disjunctions of conjunctions. -/
structure Target where
  anyOfs : List AnyOf
  deriving Repr, DecidableEq

namespace Target

def single (m : Match) : Target := ⟨[⟨[⟨[m]⟩]⟩]⟩

/-- The form before version 3.0, with one list of alternatives for each sort of attribute. -/
def ofSections (subjects resources actions environments : List AllOf) : Target :=
  ⟨[⟨subjects⟩, ⟨resources⟩, ⟨actions⟩, ⟨environments⟩]⟩

/-- All comparisons in the order of the text. -/
def matchList (t : Target) : List Match :=
  t.anyOfs.flatMap fun anyOf => anyOf.alternatives.flatMap AllOf.matchList

end Target

end PolicyDecision
