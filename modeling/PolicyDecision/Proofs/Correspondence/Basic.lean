import PolicyDecision.Proofs.Correspondence.Turning
import PolicyDecision.Proofs.Variable.Stateless

/-! Two evaluations side by side. From states that agree, the second yields what the first yields
and adds to its state what the first adds, with the effects turned. -/

namespace PolicyDecision

open Stateful NodeEvaluation

/-- What an evaluation adds to a state; `known` are the variables that it leaves, unless they are
those from before. -/
structure Yield where
  known : Option VariableStates := none
  findings : Findings := {}
  error : Option EvaluationError := none

namespace Yield

def andThen (y z : Yield) : Yield :=
  ⟨z.known.or y.known, y.findings.append z.findings, y.error.or z.error⟩

def turned (turn : Effect → Effect) (y : Yield) : Yield :=
  { y with findings := y.findings.turned turn }

variable (turn : Effect → Effect)

@[simp] lemma turned_empty : turned turn {} = {} := rfl

@[simp] lemma turned_id (y : Yield) : y.turned id = y := by simp [turned]

lemma turned_andThen (y z : Yield) :
    (y.andThen z).turned turn = (y.turned turn).andThen (z.turned turn) := by
  simp [turned, andThen, Findings.turned_append]

end Yield

namespace Progress

def extended (s : Progress) (y : Yield) : Progress :=
  { s with
    known := y.known.getD s.known
    findings := s.findings.append y.findings
    firstError := s.firstError.or y.error }

variable (s : Progress)

@[simp] lemma extended_empty : s.extended {} = s := by simp [extended]

lemma extended_extended (y z : Yield) : (s.extended y).extended z = s.extended (y.andThen z) := by
  have hknown : z.known.getD (y.known.getD s.known) = (z.known.or y.known).getD s.known := by
    cases z.known <;> rfl
  simp only [extended, Yield.andThen, Findings.append_assoc, Option.or_assoc, hknown]

end Progress

/-- How two evaluations are compared: which of their states agree, how the effects of the first are
turned, and whether both leave the known variables as they were. -/
structure Correspondence where
  turn : Effect → Effect
  injective : Function.Injective turn
  agree : Progress → Progress → Prop
  restoring : Bool
  agree_extended : ∀ {s t : Progress} (y : Yield), (restoring = true → y.known = none) →
    agree s t → agree (s.extended y) (t.extended (y.turned turn))
  agree_findings : ∀ {s t : Progress} (f g : Findings), agree s t →
    agree { s with findings := f } { t with findings := g }

namespace Correspondence

variable {turn : Effect → Effect}

/-- Within a policy the same variables must be known. -/
def within (hturn : Function.Injective turn) : Correspondence where
  turn
  injective := hturn
  agree s t := s.known = t.known
  restoring := false
  agree_extended y _ h := by simp only [Progress.extended, Yield.turned, h]
  agree_findings _ _ h := h

/-- Between policies only the enclosing policy sets and the references followed matter. -/
def between (hturn : Function.Injective turn)
    (place : (List String × ℕ) → (List String × ℕ) → Prop) : Correspondence where
  turn
  injective := hturn
  agree s t := place (s.enclosing, s.followed) (t.enclosing, t.followed)
  restoring := true
  agree_extended _ _ h := h
  agree_findings _ _ h := h

variable (c : Correspondence) {α β α' β' : Type}

def Parallels (f : α → β) (x : NodeEvaluation α) (y : NodeEvaluation β) : Prop :=
  ∀ s t, c.agree s t → ∃ r added, (c.restoring = true → added.known = none) ∧
    x s = (r, s.extended added) ∧ y t = (r.map f, t.extended (added.turned c.turn))

variable {c}

lemma parallels_of_eq {f : α → β} {x : NodeEvaluation α} {y : NodeEvaluation β}
    {r : Except ConfigurationError α} (hx : ∀ s, x s = (r, s)) (hy : ∀ t, y t = (r.map f, t)) :
    c.Parallels f x y := by
  intro s t _
  refine ⟨r, {}, fun _ => rfl, ?_, ?_⟩
  · rw [hx, Progress.extended_empty]
  · rw [hy, Yield.turned_empty, Progress.extended_empty]

lemma parallels_pure (f : α → β) (a : α) : c.Parallels f (pure a) (pure (f a)) :=
  parallels_of_eq (r := .ok a) (fun _ => rfl) fun _ => rfl

lemma parallels_ofResult (f : α → β) (x : Except ConfigurationError α) :
    c.Parallels f (ofResult x) (ofResult (x.map f)) :=
  parallels_of_eq (fun _ => rfl) fun _ => rfl

lemma parallels_bind {f : α → α'} {g : β → β'} {x : NodeEvaluation α} {x' : NodeEvaluation α'}
    {k : α → NodeEvaluation β} {k' : α' → NodeEvaluation β'} (hx : c.Parallels f x x')
    (hk : ∀ a, c.Parallels g (k a) (k' (f a))) : c.Parallels g (x >>= k) (x' >>= k') := by
  intro s t hagree
  obtain ⟨r, y, hy, hxs, hxt⟩ := hx s t hagree
  simp only [bind_apply, hxs, hxt]
  cases r with
  | error e => exact ⟨.error e, y, hy, rfl, rfl⟩
  | ok a =>
    obtain ⟨r', z, hz, hks, hkt⟩ := hk a _ _ (c.agree_extended y hy hagree)
    refine ⟨r', y.andThen z, fun h => ?_, ?_, ?_⟩
    · rw [Yield.andThen, hz h, hy h]
      rfl
    · simp only [hks, Progress.extended_extended]
    · simp only [Except.map, hkt, Progress.extended_extended, Yield.turned_andThen]

/-- Where effects stay as they are, so do decisions. -/
lemma parallels_decision (hturn : c.turn = id) {x y : NodeEvaluation Decision} :
    c.Parallels (Decision.turned c.turn) x y ↔ c.Parallels id x y := by
  rw [hturn, show Decision.turned id = id from funext Decision.turned_id]

lemma parallels_record (e : EvaluationError) : c.Parallels id (record e) (record e) := by
  intro s t _
  refine ⟨.ok (), { error := some e }, fun _ => rfl, ?_, ?_⟩
  · simp [record, Progress.extended]
  · simp [record, Progress.extended, Yield.turned, Except.map]

lemma parallels_append (f : Findings) :
    c.Parallels id (modifyFindings (·.append f)) (modifyFindings (·.append (f.turned c.turn))) := by
  intro s t _
  refine ⟨.ok (), { findings := f }, fun _ => rfl, ?_, ?_⟩
  · simp [modifyFindings, Progress.extended]
  · simp [modifyFindings, Progress.extended, Yield.turned, Except.map]

lemma parallels_failed (version : Version) (possible : Option Effect) (e : EvaluationError) :
    c.Parallels (Decision.turned c.turn) (failed version possible e)
      (failed version (possible.map c.turn) e) := by
  refine parallels_bind (parallels_record e) fun _ => ?_
  rw [version.indeterminate_turned]
  exact parallels_pure _ _

/-- An error of the configuration ends everything; any other error is an outcome. -/
def sorted : Except Fault α → Except ConfigurationError (Outcome α)
  | .ok a => .ok (.ok a)
  | .error (.evaluation e) => .ok (.error e)
  | .error (.configuration c) => .error c

lemma sorted_map (f : α → β) (r : Except Fault α) :
    sorted (r.map f) = (sorted r).map (Except.map f) := by
  rcases r with (_ | _) | _ <;> rfl

lemma outcome_eq_sorted (x : Evaluation α) (s : Progress) :
    outcome x s = (sorted (x s.known).1, { s with known := (x s.known).2 }) := by
  rw [outcome_apply]
  rcases x s.known with ⟨(_ | _) | _, _⟩ <;> rfl

/-- Expressions are evaluated with the known variables; either these agree, or none are needed. -/
def Suits (c : Correspondence) (definitions : List VariableDefinition) : Prop :=
  (c.restoring = false ∧ ∀ s t, c.agree s t → s.known = t.known) ∨ definitions = []

lemma suits_within {hturn : Function.Injective turn} (definitions : List VariableDefinition) :
    (within hturn).Suits definitions := Or.inl ⟨rfl, fun _ _ h => h⟩

lemma parallels_outcome (hknown : c.restoring = false ∧ ∀ s t, c.agree s t → s.known = t.known)
    {f : α → β} {x : Evaluation α} {y : Evaluation β}
    (h : ∀ known, y known = ((x known).1.map f, (x known).2)) :
    c.Parallels (Except.map f) (outcome x) (outcome y) := by
  intro s t hagree
  refine ⟨sorted (x s.known).1, { known := some (x s.known).2 }, by simp [hknown.1], ?_, ?_⟩
  · simp [outcome_eq_sorted, Progress.extended]
  · rw [outcome_eq_sorted, h, ← hknown.2 s t hagree, sorted_map]
    simp [Progress.extended, Yield.turned]

lemma parallels_outcome_of_stateless {f : α → β} {x : Evaluation α} {y : Evaluation β}
    (hx : x.Stateless) (h : ∀ known, y known = ((x known).1.map f, (x known).2)) :
    c.Parallels (Except.map f) (outcome x) (outcome y) := by
  obtain ⟨r, hr⟩ := hx
  refine parallels_of_eq (r := sorted r) (fun s => ?_) fun t => ?_
  · rw [outcome_eq_sorted, hr]
  · rw [outcome_eq_sorted, h, hr, sorted_map]

lemma parallels_outcome_duties {env env' : Environment}
    {definitions definitions' : List VariableDefinition} (hc : c.Suits definitions)
    {e e' : Effect} {obligations obligations' advice advice' : List ObligationExpression}
    (h : ∀ known, env'.evaluateDuties definitions' e' obligations' advice' known =
      ((env.evaluateDuties definitions e obligations advice known).1.map (Duties.turned c.turn),
        (env.evaluateDuties definitions e obligations advice known).2)) :
    c.Parallels (Except.map (Duties.turned c.turn))
      (outcome (env.evaluateDuties definitions e obligations advice))
      (outcome (env'.evaluateDuties definitions' e' obligations' advice')) := by
  rcases hc with hknown | rfl
  · exact parallels_outcome hknown h
  · exact parallels_outcome_of_stateless (env.stateless_duties e obligations advice) h

section Scopes

variable {f : α → β} {x : NodeEvaluation α} {y : NodeEvaluation β}

/-- Without known variables, states agree within a policy. -/
lemma parallels_withFreshVariables (h : (within c.injective).Parallels f x y) :
    c.Parallels f (withFreshVariables x) (withFreshVariables y) := by
  intro s t _
  obtain ⟨r, added, -, hx, hy⟩ := h { s with known := ∅ } { t with known := ∅ } rfl
  refine ⟨r, { added with known := none }, fun _ => rfl, ?_, ?_⟩
  · simp [withFreshVariables, hx, Progress.extended]
  · simp [withFreshVariables, hy, Progress.extended, Yield.turned, within]

lemma parallels_withFreshFindings (h : c.Parallels f x y) :
    c.Parallels (Prod.map f (Findings.turned c.turn)) (withFreshFindings x)
      (withFreshFindings y) := by
  intro s t hagree
  obtain ⟨r, added, hknown, hx, hy⟩ := h _ _ (c.agree_findings {} {} hagree)
  refine ⟨r.map fun a => (a, added.findings), { added with findings := {} }, hknown, ?_, ?_⟩
  · simp [withFreshFindings, hx, Progress.extended]
  · cases r <;> simp [withFreshFindings, hy, Progress.extended, Yield.turned, Except.map]

/-- The states agree within the policy set as well. -/
lemma parallels_withinSet {c' : Correspondence} (hturn : c'.turn = c.turn)
    (hrestoring : c'.restoring = c.restoring) {id id' : String}
    (hagree : ∀ s t, c.agree s t → c'.agree { s with enclosing := id :: s.enclosing }
      { t with enclosing := id' :: t.enclosing }) (h : c'.Parallels f x y) :
    c.Parallels f (withinSet id x) (withinSet id' y) := by
  intro s t hst
  obtain ⟨r, added, hknown, hx, hy⟩ := h _ _ (hagree s t hst)
  refine ⟨r, added, fun hc => hknown (hrestoring.trans hc), ?_, ?_⟩
  · simp [withinSet, hx, Progress.extended]
  · simp [withinSet, hy, Progress.extended, hturn]

end Scopes

end Correspondence
end PolicyDecision
