import PolicyDecision.Combining.Plan

/-! The algorithms in which one effect overrides the other, or is decided for unless the other one
is. Decisions are seen from the effect that overrides: where permits override, the effects are
exchanged, so that it is always a denial that wins. -/

namespace PolicyDecision.Combining

/-- Turns a decision so that the dominant effect becomes a denial, and back again. -/
def oriented (dominant : Effect) (d : Decision) : Decision :=
  match dominant with
  | .deny => d
  | .permit => d.opposite

def orientedEffect (dominant : Effect) (effect : Option Effect) : Option Effect :=
  match dominant with
  | .deny => effect
  | .permit => effect.map Effect.opposite

/-! The algorithms of version 3.0 in which one effect overrides the other. -/

/-- The sorts of decisions seen so far. A denial ends the evaluation. -/
structure Tally where
  permit : Bool := false
  errorD : Bool := false
  errorP : Bool := false
  errorDP : Bool := false
  deriving Repr, DecidableEq

namespace Tally

def add (t : Tally) : Decision → Tally
  | .permit => { t with permit := true }
  | .indeterminateD => { t with errorD := true }
  | .indeterminateP => { t with errorP := true }
  | .indeterminateDP | .indeterminate => { t with errorDP := true }
  | .deny | .notApplicable => t

/-- The decision when no child denies. -/
def decision (t : Tally) : Decision :=
  if t.errorDP || (t.errorD && (t.errorP || t.permit)) then .indeterminateDP
  else if t.errorD then .indeterminateD
  else if t.permit then .permit
  else if t.errorP then .indeterminateP
  else .notApplicable

end Tally

/-- Evaluates the children in order until one decides for the dominant effect. -/
def extendedOverridesFrom (dominant : Effect) (t : Tally) : List (Fin n) → Plan n
  | [] => .decide (oriented dominant t.decision)
  | i :: is => .evaluate i fun d =>
    if oriented dominant d = .deny then .decide dominant.decision
    else extendedOverridesFrom dominant (t.add (oriented dominant d)) is

def extendedOverrides (dominant : Effect) (n : Nat) : Plan n :=
  extendedOverridesFrom dominant {} (List.finRange n)

/-! The algorithms before version 3.0 in which one effect overrides the other. -/

/-- What has been seen so far: a failed child counts as a possible denial only if it is known to
have had that effect. -/
structure LegacyTally where
  permit : Bool := false
  error : Bool := false
  potentialDeny : Bool := false
  deriving Repr, DecidableEq

namespace LegacyTally

def add (t : LegacyTally) (effect : Option Effect) : Decision → LegacyTally
  | .permit => { t with permit := true }
  | .deny | .notApplicable => t
  | _ => { t with error := true, potentialDeny := t.potentialDeny || effect == some .deny }

/-- The decision when no child denies. -/
def decision (t : LegacyTally) : Decision :=
  if t.potentialDeny then .indeterminate
  else if t.permit then .permit
  else if t.error then .indeterminate
  else .notApplicable

end LegacyTally

/-- Evaluates the children in order until one decides for the dominant effect. -/
def legacyOverridesFrom (dominant : Effect) (effect : Fin n → Option Effect) (t : LegacyTally) :
    List (Fin n) → Plan n
  | [] => .decide (oriented dominant t.decision)
  | i :: is => .evaluate i fun d =>
    if oriented dominant d = .deny then .decide dominant.decision
    else
      legacyOverridesFrom dominant effect
        (t.add (orientedEffect dominant (effect i)) (oriented dominant d)) is

def legacyOverrides (dominant : Effect) (effect : Fin n → Option Effect) : Plan n :=
  legacyOverridesFrom dominant effect {} (List.finRange n)

/-! The algorithms that decide for one effect unless a child decides for the other. -/

def defaultOf (default : Effect) : List (Fin n) → Plan n
  | [] => .decide default.decision
  | i :: is => .evaluate i fun d =>
    if d = default.opposite.decision then .decide d else defaultOf default is

/-- Never indeterminate: a child that fails counts as one that does not apply. -/
def byDefault (default : Effect) : CombiningAlgorithm := fun n _ _ _ =>
  defaultOf default (List.finRange n)

end PolicyDecision.Combining
