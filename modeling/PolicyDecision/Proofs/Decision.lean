import PolicyDecision.Decision
import Mathlib.Tactic.Common

/-! Which decisions are decisions for an effect. -/

namespace PolicyDecision

lemma Effect.opposite_of_ne {e e' : Effect} (h : e ≠ e') : e = e'.opposite := by
  cases e <;> cases e' <;> first | rfl | exact absurd rfl h

lemma Effect.decision_injective : Function.Injective Effect.decision := by
  intro e e' h
  cases e <;> cases e' <;> first | rfl | cases h

lemma Decision.effect?_eq_some {e : Effect} {d : Decision} :
    d.effect? = some e ↔ d = e.decision := by
  cases d <;> cases e <;> simp [Decision.effect?, Effect.decision]

/-- A decision that is weakened is for no effect. -/
lemma Decision.effect?_promoted (d : Decision) : d.promoted.effect? = none := by
  cases d <;> rfl

namespace Version

variable (version : Version)

lemma effect?_indeterminate (possible : Option Effect) :
    (version.indeterminate possible).effect? = none := by
  unfold indeterminate
  rcases possible with _ | _ | _ <;> cases version.isExtended <;> rfl

lemma effect?_shown (d : Decision) : (version.shown d).effect? = d.effect? := by
  unfold shown
  cases version.isExtended <;> cases d <;> rfl

end Version
end PolicyDecision
