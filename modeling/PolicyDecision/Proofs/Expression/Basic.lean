import PolicyDecision.Proofs.Stateful

/-! Induction on expressions, where they stand in a policy, and what the operations on variables
yield in a given state. -/

namespace PolicyDecision

/-- Induction on an expression; the arguments of a call have the property. -/
@[elab_as_elim]
theorem Expression.induction {motive : Expression → Prop} (literal : ∀ l, motive (.literal l))
    (designator : ∀ d, motive (.designator d)) (selector : ∀ s, motive (.selector s))
    (variableRef : ∀ id, motive (.variableRef id)) (function : ∀ uri, motive (.function uri))
    (apply : ∀ uri args, (∀ e ∈ args, motive e) → motive (.apply uri args))
    (e : Expression) : motive e :=
  @Expression.rec motive (fun args => ∀ e ∈ args, motive e)
    literal designator selector variableRef function apply (fun _ h => absurd h List.not_mem_nil)
    (fun _ _ he hes _ h => (List.mem_cons.mp h).elim (fun heq => heq ▸ he) (hes _)) e

namespace Expression

lemma mem_mentionsAll {id : String} {es : List Expression} :
    id ∈ mentionsAll es ↔ ∃ e ∈ es, id ∈ e.mentions := by
  induction es with
  | nil => simp [mentionsAll]
  | cons e es ih => simp [mentionsAll, ih]

end Expression

def ObligationExpression.expressions (o : ObligationExpression) : List Expression :=
  o.assignments.map (·.expression)

def Heading.expressions (h : Heading) : List Expression :=
  (h.obligations ++ h.advice).flatMap ObligationExpression.expressions

def Rule.expressions (r : Rule) : List Expression :=
  r.condition.toList ++ (r.obligations ++ r.advice).flatMap ObligationExpression.expressions

/-- What the evaluation of a policy may evaluate, apart from its definitions. -/
def Policy.expressions (p : Policy) : List Expression :=
  p.heading.expressions ++ p.rules.flatMap Rule.expressions

open Stateful

namespace Evaluation

variable {α : Type}

@[simp] lemma ofResult_apply (x : Except Fault α) (known : VariableStates) :
    ofResult x known = (x, known) := rfl

lemma outcome_apply (x : Evaluation α) (known : VariableStates) :
    outcome x known = match x known with
      | (.ok a, known') => (.ok (.ok a), known')
      | (.error (.evaluation e), known') => (.ok (.error e), known')
      | (.error (.configuration e), known') => (.error (.configuration e), known') := by
  unfold outcome
  rw [tryCatch_apply, map_apply]
  rcases x known with ⟨(_ | _) | _, _⟩ <;> rfl

end Evaluation

namespace Expression

variable (env : Environment)

/-- What a call yields, as a fault if it fails. -/
def called (f : FunctionRef) (args : Arguments) : Except Fault Evaluated :=
  ((env.call f args).mapError (.raisedBy f.uri)).mapError .evaluation

variable (valueOf : String → Evaluation Evaluated)

lemma evaluateAllWith_eq_mapM (es : List Expression) :
    evaluateAllWith env valueOf es = es.mapM (evaluateWith env valueOf) := by
  induction es with
  | nil => rw [evaluateAllWith, List.mapM_nil]
  | cons e es ih => rw [evaluateAllWith, ih, List.mapM_cons]

@[simp] lemma evaluateWith_literal (l : Literal) (known : VariableStates) :
    (literal l).evaluateWith env valueOf known = (l.resolve.map .value, known) := by
  rw [evaluateWith, map_apply, Evaluation.ofResult_apply]

@[simp] lemma evaluateWith_designator (d : Designator) (known : VariableStates) :
    (designator d).evaluateWith env valueOf known = ((env.designate d).map .bag, known) := by
  rw [evaluateWith, map_apply, Evaluation.ofResult_apply]

@[simp] lemma evaluateWith_selector (s : Selector) (known : VariableStates) :
    (selector s).evaluateWith env valueOf known = ((env.select s).map .bag, known) := by
  rw [evaluateWith, map_apply, Evaluation.ofResult_apply]

@[simp] lemma evaluateWith_variableRef (id : String) (known : VariableStates) :
    (variableRef id).evaluateWith env valueOf known = valueOf id known := by
  rw [evaluateWith]

@[simp] lemma evaluateWith_function (uri : String) (known : VariableStates) :
    (function uri).evaluateWith env valueOf known =
      (((env.functions.require uri).mapError .configuration).map .function, known) := by
  rw [evaluateWith, map_apply, resolveFunction, Evaluation.ofResult_apply]

lemma evaluateWith_apply (uri : String) (args : List Expression) (known : VariableStates) :
    (apply uri args).evaluateWith env valueOf known = match env.functions.require uri with
      | .error c => (.error (.configuration c), known)
      | .ok f =>
        ((args.mapM (evaluateWith env valueOf) known).1.bind (called env f),
          (args.mapM (evaluateWith env valueOf) known).2) := by
  rw [evaluateWith, bind_apply, resolveFunction, Evaluation.ofResult_apply]
  cases env.functions.require uri with
  | error c => rfl
  | ok f =>
    simp only [Except.mapError]
    rw [bind_apply, evaluateAllWith_eq_mapM]
    rcases args.mapM (evaluateWith env valueOf) known with ⟨_ | _, _⟩ <;> rfl

end Expression

namespace Environment

variable (env : Environment)

lemma variableValue_apply (definitions : List VariableDefinition) (depth : ℕ) (id : String)
    (known : VariableStates) :
    env.variableValue definitions (depth + 1) id known = match definition? definitions id with
      | none => (.error (.evaluation (.undefinedVariable id)), known)
      | some d => match known.get? id with
        | some (.done result) => (result.mapError .evaluation, known)
        | some .pending => (.error (.evaluation (.circularVariable id)), known)
        | none =>
          match Evaluation.outcome
              (d.expression.evaluateWith env (env.variableValue definitions depth))
              (known.insert id .pending) with
          | (.ok result, known') => (result.mapError .evaluation, known'.insert id (.done result))
          | (.error e, known') => (.error e, known') := by
  rw [variableValue]
  cases definition? definitions id with
  | none => rfl
  | some d =>
    simp only
    rw [bind_apply, get_apply]
    simp only
    rcases known.get? id with _ | _ | result
    · simp only
      rw [bind_apply, modify_apply]
      simp only
      rw [bind_apply]
      split
      · rename_i hx
        rw [hx]
        rfl
      · rename_i hx
        rw [hx]
    · rfl
    · rfl

end Environment
end PolicyDecision
