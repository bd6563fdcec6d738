import PolicyDecision.Proofs.Spelling.Answers

/-! Expressions and duties in canonical form, evaluated where canonical outcomes of variables are
known. -/

namespace PolicyDecision

open Stateful

section Known

variable {α β : Type} (f : α → β) (c : Catalogue α)

lemma Catalogue.get?_map (key : String) : (c.map f).get? key = (c.get? key).map f := by
  rw [get?, get?, map]
  induction c.entries with
  | nil => rfl
  | cons e entries ih =>
    rw [List.map_cons, List.lookup_cons, List.lookup_cons, ih]
    split <;> rfl

lemma Catalogue.map_insert (key : String) (a : α) :
    (c.insert key a).map f = (c.map f).insert key (f a) := by
  have hentries : ∀ entries : List (String × α),
      (insertEntry key a entries).map (fun e => (e.1, f e.2)) =
        insertEntry key (f a) (entries.map fun e => (e.1, f e.2)) := by
    intro entries
    induction entries with
    | nil => rfl
    | cons e entries ih =>
      obtain ⟨k, b⟩ := e
      rw [List.map_cons, insertEntry, insertEntry, ← ih]
      split
      · rfl
      · split <;> rfl
  exact congrArg Catalogue.mk (hentries c.entries)

end Known

def VariableState.canonical : VariableState → VariableState
  | pending => .pending
  | done result => .done (rewritten EvaluationError.canonical id result)

/-- Faults and the outcomes of variables, as they are when all is in canonical form. -/
def Evaluation.spelling : Rewriting Fault VariableStates :=
  ⟨Fault.canonical, fun known => known.map VariableState.canonical⟩

namespace Evaluation

variable {α β : Type} {value : α → β}

lemma carries_ofOutcome (x : Outcome α) :
    spelling.Carries id (ofOutcome x) (ofOutcome (rewritten EvaluationError.canonical id x)) := by
  cases x with
  | error e => exact fun known => rfl
  | ok a => exact fun known => rfl

lemma carries_fail {e : EvaluationError} (he : e.canonical = e) :
    spelling.Carries value (fail e) (fail e) := by
  intro known
  change _ = (Except.error (Fault.evaluation e.canonical), _)
  rw [he]
  rfl

lemma carries_outcome {x : Evaluation α} {y : Evaluation β} (h : spelling.Carries value x y) :
    spelling.Carries (rewritten EvaluationError.canonical value) (outcome x) (outcome y) := by
  intro known
  rw [outcome_apply, outcome_apply, h]
  rcases x known with ⟨(_ | _) | _, _⟩ <;> rfl

end Evaluation

namespace Environment

open Evaluation

variable {env env' : Environment} (h : env.Spells env')
include h

lemma Spells.resolveFunction_eq (uri : String) : spelling.Carries id
    (Expression.resolveFunction env uri) (Expression.resolveFunction env' uri) := by
  rw [Expression.resolveFunction, Expression.resolveFunction, h.functions]
  refine carries_of_stateless (r := (env.functions.require uri).mapError .configuration)
    (fun _ => rfl) fun _ => ?_
  cases env.functions.require uri <;> rfl

/-- A function is called alike, and what it raises is marked with its URI. -/
lemma Spells.callFunction_eq (f : FunctionRef) (args : Arguments) : spelling.Carries id
    (Expression.callFunction env f args) (Expression.callFunction env' f args) := by
  rw [Expression.callFunction, Expression.callFunction, h.call]
  refine carries_of_stateless (fun _ => rfl) fun _ => ?_
  cases env.call f args <;> rfl

lemma Spells.evaluateWith_eq {valueOf valueOf' : String → Evaluation Evaluated}
    (hvalue : ∀ name, spelling.Carries id (valueOf name) (valueOf' name)) (e : Expression) :
    spelling.Carries id (e.evaluateWith env valueOf) (e.canonical.evaluateWith env' valueOf') := by
  induction e using Expression.induction with
  | literal l =>
    refine carries_of_stateless (Expression.evaluateWith_literal env valueOf l) fun known => ?_
    rw [Expression.canonical, Expression.evaluateWith_literal, Literal.resolve_canonical,
      rewritten_map]
    cases l.resolve <;> rfl
  | designator d =>
    refine carries_of_stateless (Expression.evaluateWith_designator env valueOf d) fun known => ?_
    rw [Expression.canonical, Expression.evaluateWith_designator, h.designate_eq, rewritten_map]
    cases env.designate d <;> rfl
  | selector s =>
    refine carries_of_stateless (Expression.evaluateWith_selector env valueOf s) fun known => ?_
    rw [Expression.canonical, Expression.evaluateWith_selector, h.select_eq, rewritten_map]
    cases env.select s <;> rfl
  | variableRef name =>
    rw [Expression.canonical, Expression.evaluateWith, Expression.evaluateWith]
    exact hvalue name
  | function uri =>
    refine carries_of_stateless (Expression.evaluateWith_function env valueOf uri) fun known => ?_
    rw [Expression.canonical, Expression.evaluateWith_function, h.functions]
    cases env.functions.require uri <;> rfl
  | apply uri args ih =>
    rw [Expression.canonical, Expression.canonicalAll_eq_map, Expression.evaluateWith,
      Expression.evaluateWith, Expression.evaluateAllWith_eq_mapM,
      Expression.evaluateAllWith_eq_mapM]
    refine carries_bind (h.resolveFunction_eq uri) fun f => ?_
    refine carries_bind (carries_mapM ih) fun args => ?_
    rw [List.map_id]
    exact h.callFunction_eq f args

section Definitions

variable (definitions : List VariableDefinition)

omit h in
lemma definition?_canonical (name : String) :
    definition? (definitions.map .canonical) name =
      (definition? definitions name).map .canonical := by
  rw [definition?, definition?, List.find?_map]
  rfl

lemma Spells.variableValue_eq (depth : ℕ) (name : String) : spelling.Carries id
    (env.variableValue definitions depth name)
      (env'.variableValue (definitions.map .canonical) depth name) := by
  induction depth generalizing name with
  | zero => exact carries_fail rfl
  | succ depth ih =>
    rw [variableValue, variableValue, definition?_canonical]
    cases definition? definitions name with
    | none => exact carries_fail rfl
    | some d =>
      refine carries_bind carries_get fun known => ?_
      rw [show spelling.state known = known.map VariableState.canonical from rfl,
        Catalogue.get?_map]
      rcases known.get? name with _ | _ | result
      · refine carries_bind (carries_modify fun s => ?_) fun _ => ?_
        · exact (Catalogue.map_insert VariableState.canonical s name .pending).symm
        · refine carries_bind (carries_outcome (h.evaluateWith_eq ih d.expression)) fun result => ?_
          refine carries_bind (carries_modify fun s => ?_) fun _ => carries_ofOutcome result
          exact (Catalogue.map_insert VariableState.canonical s name (.done result)).symm
      · exact carries_fail rfl
      · exact carries_ofOutcome result

theorem Spells.evaluate_eq (e : Expression) : spelling.Carries id (env.evaluate definitions e)
    (env'.evaluate (definitions.map .canonical) e.canonical) := by
  rw [evaluate, evaluate, List.length_map]
  exact h.evaluateWith_eq (h.variableValue_eq definitions _) e

lemma Spells.evaluateCondition_eq (e : Expression) :
    spelling.Carries id (env.evaluateCondition definitions e)
      (env'.evaluateCondition (definitions.map .canonical) e.canonical) := by
  refine carries_bind (h.evaluate_eq definitions e) fun v => ?_
  rcases v with v | b | f
  · cases v with
    | boolean b => exact carries_pure b
    | _ => exact carries_fail rfl
  · exact carries_fail rfl
  · exact carries_fail rfl

lemma Spells.evaluateAssignment_eq (a : Assignment) :
    spelling.Carries id (env.evaluateAssignment definitions a)
      (env'.evaluateAssignment (definitions.map .canonical) a.canonical) := by
  refine carries_bind (h.evaluate_eq definitions a.expression) fun v => ?_
  rcases v with v | b | f
  · exact fun known => rfl
  · exact fun known => rfl
  · exact fun known => rfl

lemma Spells.evaluateObligations_eq (effect : Effect) (obligations : List ObligationExpression) :
    spelling.Carries id (env.evaluateObligations definitions effect obligations)
      (env'.evaluateObligations (definitions.map .canonical) effect
        (obligations.map .canonical)) := by
  have hfilter : (obligations.map .canonical).filter (·.effect == effect) =
      (obligations.filter (·.effect == effect)).map ObligationExpression.canonical := by
    rw [List.filter_map]
    rfl
  rw [evaluateObligations, evaluateObligations, hfilter, ← List.map_id_fun]
  refine carries_mapM fun o _ => ?_
  refine carries_bind (carries_mapM fun a _ => h.evaluateAssignment_eq definitions a) ?_
  intro assignments
  rw [List.map_id]
  exact carries_pure _

/-- The duties come with the same values. -/
theorem Spells.evaluateDuties_eq (effect : Effect)
    (obligations advice : List ObligationExpression) :
    spelling.Carries id (env.evaluateDuties definitions effect obligations advice)
      (env'.evaluateDuties (definitions.map .canonical) effect (obligations.map .canonical)
        (advice.map .canonical)) := by
  refine carries_bind (h.evaluateObligations_eq definitions effect obligations) fun os => ?_
  refine carries_bind (h.evaluateObligations_eq definitions effect advice) fun as => ?_
  exact carries_pure _

end Definitions

end Environment

end PolicyDecision
