import PolicyDecision.Evaluation.Node
import PolicyDecision.Proofs.Variable.Transparency

/-! Computations in the scope of a policy. What they yield does not depend on what has been
evaluated in that scope before. -/

namespace PolicyDecision.Environment

open Stateful

variable {env : Environment} {definitions : List VariableDefinition}

/-- A computation that leaves behind what can be known between evaluations, unless an error of the
configuration ends it, and that yields the same wherever it begins. -/
structure Scoped {α : Type} (env : Environment) (definitions : List VariableDefinition)
    (x : Evaluation α) : Prop where
  settled : ∀ known, env.Settled definitions known →
    (∀ c, (x known).1 ≠ .error (.configuration c)) → env.Settled definitions (x known).2
  transparent : ∀ known known', env.Settled definitions known → env.Settled definitions known' →
    ∀ a, (x known).1 = .ok a → (x known').1 = .ok a

section Scoped

variable {α β : Type}

/-- What is known after a computation that does not end in an error of the configuration. -/
lemma Scoped.settled_of_eq {x : Evaluation α} {known known' : VariableStates}
    {result : Except Fault α} (hx : env.Scoped definitions x)
    (hknown : env.Settled definitions known) (h : x known = (result, known'))
    (hresult : ∀ c, result ≠ .error (.configuration c)) : env.Settled definitions known' := by
  have hsettled := hx.settled known hknown
  rw [h] at hsettled
  exact hsettled hresult

/-- The computation yields the same when nothing is known. -/
lemma Scoped.value_of_eq {x : Evaluation α} {a : α} {known known' : VariableStates}
    (hx : env.Scoped definitions x) (hknown : env.Settled definitions known)
    (h : x known = (.ok a, known')) : (x ∅).1 = .ok a := by
  refine hx.transparent known ∅ hknown .start a ?_
  rw [h]

lemma Scoped.pure (a : α) : env.Scoped definitions (pure a : Evaluation α) :=
  ⟨fun _ hknown _ => hknown, fun _ _ _ _ _ h => h⟩

lemma Scoped.fail (e : EvaluationError) : env.Scoped definitions (Evaluation.fail e : Evaluation α) :=
  ⟨fun _ hknown _ => hknown, fun _ _ _ _ _ h => h⟩

lemma Scoped.bind {x : Evaluation α} {f : α → Evaluation β} (hx : env.Scoped definitions x)
    (hf : ∀ a, env.Scoped definitions (f a)) : env.Scoped definitions (x >>= f) := by
  constructor
  · intro known hknown hcontinue
    have hsettled := hx.settled known hknown
    rw [bind_apply] at hcontinue ⊢
    rcases hx' : x known with ⟨fault | a, known₁⟩
    · simp only [hx'] at hsettled hcontinue ⊢
      exact hsettled fun c hc => hcontinue c (by rw [Except.error.inj hc])
    · simp only [hx'] at hsettled hcontinue ⊢
      exact (hf a).settled known₁ (hsettled (by simp)) hcontinue
  · intro known known' hknown hknown' b hb
    have hsettled := hx.settled known hknown
    have hsettled' := hx.settled known' hknown'
    have hsame := hx.transparent known known' hknown hknown'
    rw [bind_apply] at hb ⊢
    rcases hx' : x known with ⟨fault | a, known₁⟩
    · simp only [hx'] at hb
      cases hb
    · simp only [hx'] at hb hsettled hsame
      have ha := hsame a rfl
      rcases hx'' : x known' with ⟨r, known₁'⟩
      simp only [hx''] at ha hsettled'
      subst ha
      exact (hf a).transparent known₁ known₁' (hsettled (by simp)) (hsettled' (by simp)) b hb

lemma Scoped.mapM {f : α → Evaluation β} {l : List α} (h : ∀ a ∈ l, env.Scoped definitions (f a)) :
    env.Scoped definitions (l.mapM f) := by
  induction l with
  | nil => exact Scoped.pure []
  | cons a l ih =>
    rw [List.mapM_cons]
    refine Scoped.bind (h a List.mem_cons_self) fun b => ?_
    refine Scoped.bind (ih fun c hc => h c (List.mem_cons_of_mem a hc)) fun bs => ?_
    exact Scoped.pure _

end Scoped

/-- An expression with a value has it whatever has been evaluated before. -/
lemma Scoped.evaluate (e : Expression) : env.Scoped definitions (env.evaluate definitions e) := by
  have hagrees : ∀ known, env.Settled definitions known →
      env.Agrees definitions e (env.evaluate definitions e known).1 := by
    intro known hknown
    obtain ⟨hfaithful, hnone⟩ := hknown.faithful
    exact (agrees_evaluate hfaithful fun p hp => absurd hp (hnone p)).1
  refine ⟨fun known hknown hcontinue => .next hknown e hcontinue, ?_⟩
  intro known known' hknown hknown' v hv
  have hacyclic : ¬ e.LeadsToCycle definitions := by
    intro hcycle
    obtain ⟨fault, hfault⟩ := (hagrees known hknown).of_cyclic hcycle
    rw [hv] at hfault
    cases hfault
  rw [(hagrees known' hknown').of_acyclic hacyclic, ← (hagrees known hknown).of_acyclic hacyclic, hv]

lemma Scoped.condition (c : Expression) :
    env.Scoped definitions (env.evaluateCondition definitions c) := by
  refine Scoped.bind (Scoped.evaluate c) fun v => ?_
  split
  · exact Scoped.pure _
  · exact Scoped.fail _

lemma Scoped.assignment (a : Assignment) :
    env.Scoped definitions (env.evaluateAssignment definitions a) := by
  refine Scoped.bind (Scoped.evaluate a.expression) fun v => ?_
  cases v with
  | value v => exact Scoped.pure _
  | bag b => exact Scoped.pure _
  | function f => exact Scoped.bind (Scoped.fail _) fun _ => Scoped.pure _

lemma Scoped.obligations (effect : Effect) (duties : List ObligationExpression) :
    env.Scoped definitions (env.evaluateObligations definitions effect duties) :=
  Scoped.mapM fun _ _ => Scoped.bind (Scoped.mapM fun a _ => Scoped.assignment a) fun _ =>
    Scoped.pure _

lemma Scoped.duties (effect : Effect) (obligations advice : List ObligationExpression) :
    env.Scoped definitions (env.evaluateDuties definitions effect obligations advice) :=
  Scoped.bind (Scoped.obligations effect obligations) fun _ =>
    Scoped.bind (Scoped.obligations effect advice) fun _ => Scoped.pure _

end PolicyDecision.Environment
