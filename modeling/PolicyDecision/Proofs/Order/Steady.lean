import PolicyDecision.Proofs.Correspondence.Node
import PolicyDecision.Proofs.Order.Algorithm
import PolicyDecision.Proofs.Validation.Safety
import PolicyDecision.Proofs.Variable.Scope

/-! Computations that have a result, and always the same as far as it is looked at, wherever in an
evaluation they stand. -/

namespace PolicyDecision

open Stateful

namespace Stateful

variable {ε σ α β γ δ : Type} {I : σ → Prop}

/-- From a state with the invariant, the computation keeps it and has a result, which is seen as the
given one. -/
def Steady (I : σ → Prop) (view : α → β) (x : ExceptT ε (StateM σ) α) (b : β) : Prop :=
  ∀ s, I s → ∃ a s', x s = (.ok a, s') ∧ view a = b ∧ I s'

lemma steady_pure {view : α → β} {a : α} {b : β} (h : view a = b) :
    Steady I view (pure a : ExceptT ε (StateM σ) α) b :=
  fun s hs => ⟨a, s, rfl, h, hs⟩

/-- Only what is seen of the first result may matter to the second. -/
lemma steady_bind {view : α → β} {view' : γ → δ} {x : ExceptT ε (StateM σ) α}
    {f : α → ExceptT ε (StateM σ) γ} {b : β} {d : δ} (hx : Steady I view x b)
    (hf : ∀ a, view a = b → Steady I view' (f a) d) : Steady I view' (x >>= f) d := by
  intro s hs
  obtain ⟨a, s', hxs, ha, hs'⟩ := hx s hs
  rw [bind_apply, hxs]
  exact hf a ha s' hs'

/-- The whole of the first result is known. -/
lemma steady_then {view : γ → δ} {x : ExceptT ε (StateM σ) α} {f : α → ExceptT ε (StateM σ) γ}
    {a : α} {d : δ} (hx : Steady I id x a) (hf : Steady I view (f a) d) :
    Steady I view (x >>= f) d := by
  refine steady_bind hx ?_
  rintro a' rfl
  exact hf

lemma steady_modify {f : σ → σ} (h : ∀ s, I s → I (f s)) :
    Steady I id (modify f : ExceptT ε (StateM σ) PUnit) ⟨⟩ :=
  fun s hs => ⟨⟨⟩, f s, rfl, rfl, h s hs⟩

lemma except_toOption_eq_some {x : Except ε α} {a : α} :
    x.toOption = some a ↔ x = .ok a := by
  cases x <;> simp [Except.toOption]

lemma except_toOption_mapError {ε' : Type} (f : ε → ε') (x : Except ε α) :
    (x.mapError f).toOption = x.toOption := by
  cases x <;> rfl

end Stateful

/-- A place in the policy tree, where the known variables have a property. -/
def Progress.At (K : VariableStates → Prop) (enclosing : List String) (followed : ℕ)
    (s : Progress) : Prop :=
  K s.known ∧ s.enclosing = enclosing ∧ s.followed = followed

open Progress (At)

variable {K : VariableStates → Prop} {enclosing : List String} {followed : ℕ} {α : Type}

namespace NodeEvaluation

lemma steady_ofResult {I : Progress → Prop} {x : Except ConfigurationError α} {a : α}
    (h : x = .ok a) : Steady I id (ofResult x) a := by
  subst h
  exact fun s hs => ⟨a, s, rfl, rfl, hs⟩

lemma steady_record (e : EvaluationError) : Steady (At K enclosing followed) id (record e) ⟨⟩ :=
  steady_modify fun _ hs => hs

lemma steady_modifyFindings (f : Findings → Findings) :
    Steady (At K enclosing followed) id (modifyFindings f) ⟨⟩ :=
  steady_modify fun _ hs => hs

lemma steady_failed (version : Version) (possible : Option Effect) (e : EvaluationError) :
    Steady (At K enclosing followed) id (failed version possible e)
      (version.indeterminate possible) :=
  steady_then (steady_record e) (steady_pure rfl)

lemma steady_recording {x : NodeEvaluation MatchResult} {m : MatchResult}
    (hx : Steady (At K enclosing followed) id x m) :
    Steady (At K enclosing followed) id (recording x) m := by
  refine steady_bind hx fun m' hm' => ?_
  cases m' with
  | indeterminate e => exact steady_then (steady_record e) (steady_pure hm')
  | isMatch => exact steady_pure hm'
  | noMatch => exact steady_pure hm'

/-- The findings of the computation are not looked at. -/
lemma steady_withFreshFindings {x : NodeEvaluation α} {a : α}
    (hx : Steady (At K enclosing followed) id x a) :
    Steady (At K enclosing followed) Prod.fst (withFreshFindings x) a := by
  intro s hs
  obtain ⟨a', s', hxs, ha', hs'⟩ := hx { s with findings := {} } hs
  refine ⟨(a', s'.findings), { s' with findings := s.findings }, ?_, ha', hs'⟩
  rw [withFreshFindings, hxs]
  rfl

lemma steady_withFreshVariables {K' : VariableStates → Prop} (hempty : K' ∅)
    {x : NodeEvaluation α} {a : α} (hx : Steady (At K' enclosing followed) id x a) :
    Steady (At K enclosing followed) id (withFreshVariables x) a := by
  intro s hs
  obtain ⟨a', s', hxs, ha', hs'⟩ := hx { s with known := ∅ } ⟨hempty, hs.2⟩
  refine ⟨a', { s' with known := s.known }, ?_, ha', hs.1, hs'.2⟩
  rw [withFreshVariables, hxs]

lemma steady_withinSet {id' : String} {x : NodeEvaluation α} {a : α}
    (hx : Steady (At K (id' :: enclosing) followed) id x a) :
    Steady (At K enclosing followed) id (withinSet id' x) a := by
  intro s hs
  obtain ⟨hknown, henclosing, hfollowed⟩ := hs
  obtain ⟨a', s', hxs, ha', hknown', henclosing', hfollowed'⟩ :=
    hx { s with enclosing := id' :: s.enclosing } ⟨hknown, congrArg _ henclosing, hfollowed⟩
  refine ⟨a', { s' with enclosing := s'.enclosing.tail }, ?_, ha', hknown', ?_, hfollowed'⟩
  · rw [withinSet, hxs]
  · exact congrArg List.tail henclosing'

/-- Unless it raises an error of the configuration, a computation on variables has a result or an
error that the evaluation goes on with. -/
lemma exists_outcome {x : Evaluation α} (h : Raises Fault.IsEvaluation x) (s : Progress) :
    ∃ r known, outcome x s = (.ok r, { s with known }) ∧
      x s.known = (r.mapError .evaluation, known) := by
  rw [outcome_apply]
  rcases hx : x s.known with ⟨(e | c) | a, known⟩
  · exact ⟨.error e, known, rfl, rfl⟩
  · obtain ⟨e, he⟩ := h s.known (.configuration c) (by rw [hx])
    cases he
  · exact ⟨.ok a, known, rfl, rfl⟩

end NodeEvaluation

open NodeEvaluation

/-- In the scope of a policy a computation has a result or not, and the same one, whatever has been
evaluated before. If it has none, its error may be another one. -/
lemma Environment.Scoped.exists_steady {env : Environment}
    {definitions : List VariableDefinition} {x : Evaluation α} (hx : env.Scoped definitions x)
    (h : Raises Fault.IsEvaluation x) :
    ∃ r, Steady (At (env.Settled definitions) enclosing followed) Except.toOption
      (outcome x) r := by
  refine ⟨(x ∅).1.toOption, fun s hs => ?_⟩
  obtain ⟨hknown, hplace⟩ := hs
  obtain ⟨r, known, hr, hxs⟩ := exists_outcome h s
  have hsettled := hx.settled_of_eq hknown hxs fun c => by cases r <;> simp [Except.mapError]
  refine ⟨r, _, hr, ?_, hsettled, hplace⟩
  have hsame : (x s.known).1.toOption = (x ∅).1.toOption := by
    refine Option.ext fun a => ?_
    rw [except_toOption_eq_some, except_toOption_eq_some]
    exact ⟨hx.transparent s.known ∅ hknown .start a, hx.transparent ∅ s.known .start hknown a⟩
  rw [← hsame, hxs, except_toOption_mapError]

/-- Outside policies nothing that is known matters. -/
lemma Evaluation.Stateless.exists_steady {x : Evaluation α} (hx : x.Stateless)
    (h : Raises Fault.IsEvaluation x) :
    ∃ r, Steady (At K enclosing followed) Except.toOption (NodeEvaluation.outcome x) r := by
  obtain ⟨result, hresult⟩ := hx
  refine ⟨result.toOption, fun s hs => ?_⟩
  obtain ⟨r, known, hr, hxs⟩ := exists_outcome h s
  obtain ⟨rfl, rfl⟩ := Prod.mk.inj ((hresult s.known).symm.trans hxs)
  exact ⟨r, s, hr, (except_toOption_mapError _ r).symm, hs⟩

end PolicyDecision
