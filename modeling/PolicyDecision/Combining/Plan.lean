import PolicyDecision.Error
import PolicyDecision.Policy.Basic

/-! Combining algorithms as plans: what to ask about which child, depending on the answers so far,
and what to decide in the end. -/

namespace PolicyDecision

/-- A dialogue about `n` children. A child can be evaluated, or its target can be looked at. -/
inductive Plan (n : Nat)
  | decide (d : Decision)
  | evaluate (child : Fin n) (next : Decision → Plan n)
  | probe (child : Fin n) (next : MatchResult → Plan n)

/-- Runs a plan; a child that raises an error ends it. -/
def Plan.run {m : Type → Type} [Monad m] {n : Nat} (evaluate : Fin n → m Decision)
    (probe : Fin n → m MatchResult) : Plan n → m Decision
  | .decide d => pure d
  | .evaluate i next => do (next (← evaluate i)).run evaluate probe
  | .probe i next => do (next (← probe i)).run evaluate probe

/-- What an algorithm knows of a child before it is evaluated. Rules declare their effect, policies
do not. -/
structure ChildInfo where
  hint : Option Effect := none
  parameters : List Parameter := []
  deriving Repr, DecidableEq

/-- Makes a plan for children from their descriptions and from the algorithm's parameters. -/
abbrev CombiningAlgorithm :=
  (n : Nat) → (children : Fin n → ChildInfo) → List Parameter → Version → Plan n

/-- A child together with the computations that answer about it. -/
structure Child (m : Type → Type) where
  info : ChildInfo
  evaluate : m Decision
  probe : m MatchResult

/-- Lets an algorithm decide about children. -/
def CombiningAlgorithm.run {m : Type → Type} [Monad m] (a : CombiningAlgorithm)
    (children : List (Child m)) (parameters : List Parameter) (version : Version) : m Decision :=
  (a children.length (fun i => children[i].info) parameters version).run
    (fun i => children[i].evaluate) (fun i => children[i].probe)

end PolicyDecision
