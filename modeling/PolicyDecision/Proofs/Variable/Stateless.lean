import PolicyDecision.Evaluation.Node
import PolicyDecision.Proofs.Variable.Expansion

/-! Computations outside policies. Without definitions no variable has a value, so that nothing that
is known matters, and nothing becomes known. -/

namespace PolicyDecision

open Stateful

namespace Evaluation

/-- The computation neither depends on what is known nor changes it. -/
def Stateless {α : Type} (x : Evaluation α) : Prop := ∃ r, ∀ known, x known = (r, known)

section Stateless

variable {α β : Type}

lemma stateless_pure (a : α) : Stateless (pure a) := ⟨.ok a, fun _ => rfl⟩

lemma stateless_fail (e : EvaluationError) : Stateless (fail e : Evaluation α) :=
  ⟨.error (.evaluation e), fun _ => rfl⟩

lemma stateless_bind {x : Evaluation α} {f : α → Evaluation β} (hx : Stateless x)
    (hf : ∀ a, Stateless (f a)) : Stateless (x >>= f) := by
  obtain ⟨r, hr⟩ := hx
  cases r with
  | error e => exact ⟨.error e, fun known => by rw [bind_apply, hr]⟩
  | ok a =>
    obtain ⟨r', hr'⟩ := hf a
    exact ⟨r', fun known => by rw [bind_apply, hr]; exact hr' known⟩

lemma stateless_mapM {f : α → Evaluation β} {l : List α} (h : ∀ a, Stateless (f a)) :
    Stateless (l.mapM f) := by
  choose g hg using h
  exact ⟨l.mapM g, mapM_stateless fun a _ => hg a⟩

end Stateless

end Evaluation

open Evaluation

namespace Environment

variable (env : Environment)

lemma stateless_assignment (a : Assignment) : Stateless (env.evaluateAssignment [] a) := by
  refine stateless_bind ⟨_, env.evaluate_nil a.expression⟩ fun v => ?_
  cases v with
  | value v => exact stateless_pure _
  | bag b => exact stateless_pure _
  | function f => exact stateless_bind (stateless_fail _) fun _ => stateless_pure _

lemma stateless_obligations (effect : Effect) (duties : List ObligationExpression) :
    Stateless (env.evaluateObligations [] effect duties) :=
  stateless_mapM fun _ => stateless_bind (stateless_mapM env.stateless_assignment) fun _ =>
    stateless_pure _

lemma stateless_duties (effect : Effect) (obligations advice : List ObligationExpression) :
    Stateless (env.evaluateDuties [] effect obligations advice) :=
  stateless_bind (env.stateless_obligations effect obligations) fun _ =>
    stateless_bind (env.stateless_obligations effect advice) fun _ => stateless_pure _

end Environment
end PolicyDecision
