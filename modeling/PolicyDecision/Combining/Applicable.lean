import PolicyDecision.Combining.Plan

/-! The algorithms that decide as one child that applies does: the first one, or the only one. -/

namespace PolicyDecision.Combining

def firstApplicableOf (version : Version) : List (Fin n) → Plan n
  | [] => .decide .notApplicable
  | i :: is => .evaluate i fun d =>
    if d = .notApplicable then firstApplicableOf version is else .decide (version.shown d)

/-- The decision of the first child that applies. -/
def firstApplicable : CombiningAlgorithm := fun n _ _ version =>
  firstApplicableOf version (List.finRange n)

/-! The algorithm that expects at most one child to apply. -/

/-- Looks at targets until two of them match or one cannot be evaluated. -/
def onlyOneApplicableOf (version : Version) (matched : Option (Fin n)) : List (Fin n) → Plan n
  | [] =>
    match matched with
    | some i => .evaluate i fun d => .decide (version.shown d)
    | none => .decide .notApplicable
  | i :: is => .probe i fun
    | .noMatch => onlyOneApplicableOf version matched is
    | .isMatch =>
      if matched.isNone then onlyOneApplicableOf version (some i) is
      else .decide (version.indeterminate none)
    | .indeterminate _ => .decide (version.indeterminate none)

/-- The decision of the child whose target matches, if there is only one. -/
def onlyOneApplicable : CombiningAlgorithm := fun n _ _ version =>
  onlyOneApplicableOf version none (List.finRange n)

end PolicyDecision.Combining
