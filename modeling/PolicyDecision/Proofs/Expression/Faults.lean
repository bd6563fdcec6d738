import PolicyDecision.Proofs.Error
import PolicyDecision.Proofs.Expression.Basic

/-! The faults that the evaluation of an expression raises are of the sort that those of its parts
are. What goes wrong in a definition is kept with its variable, so that the sort is told of the known
variables as well. -/

namespace PolicyDecision

open Stateful

variable {P : Fault → Prop}

/-- Of the variables, only errors of the given sort are known. -/
def VariableStates.OnlyFaults (P : Fault → Prop) (known : VariableStates) : Prop :=
  ∀ id e, known.get? id = some (.done (.error e)) → P (.evaluation e)

lemma VariableStates.onlyFaults_empty : OnlyFaults P ∅ := by
  intro id e h
  cases h

lemma VariableStates.OnlyFaults.insert {known : VariableStates} (h : OnlyFaults P known)
    (id : String) {state : VariableState}
    (hstate : ∀ e, state = .done (.error e) → P (.evaluation e)) :
    OnlyFaults P (known.insert id state) := by
  intro id' e he
  by_cases hid : id' = id
  · rw [hid, Catalogue.get?_insert_self] at he
    exact hstate e (Option.some.inj he)
  · rw [Catalogue.get?_insert_of_ne known hid] at he
    exact h id' e he

lemma Evaluation.ensures_ofResult {α : Type} {I : VariableStates → Prop} {x : Except Fault α}
    (hx : Errors P x) : Ensures I P (ofResult x) := fun _ hs => ⟨hs, hx⟩

/-- The parts of an expression raise only faults of the given sort. Of a variable nothing is asked,
for its definition is not a part. -/
inductive Expression.PartsRaise (env : Environment) (P : Fault → Prop) : Expression → Prop
  | literal {l : Literal} (h : Errors P l.resolve) : PartsRaise env P (.literal l)
  | designator {d : Designator} (h : Errors P (env.designate d)) : PartsRaise env P (.designator d)
  | selector {s : Selector} (h : Errors P (env.select s)) : PartsRaise env P (.selector s)
  | variableRef {id : String} : PartsRaise env P (.variableRef id)
  | function {uri : String} (h : Errors P ((env.functions.require uri).mapError .configuration)) :
      PartsRaise env P (.function uri)
  | apply {uri : String} {args : List Expression}
      (h : Errors P ((env.functions.require uri).mapError .configuration))
      (hcall : ∀ f vs, Errors P (called env f vs)) (hargs : ∀ e ∈ args, PartsRaise env P e) :
      PartsRaise env P (.apply uri args)

lemma Expression.PartsRaise.ensures_evaluateWith {env : Environment} {e : Expression}
    (h : e.PartsRaise env P) {I : VariableStates → Prop} {valueOf : String → Evaluation Evaluated}
    (hvalue : ∀ id, Ensures I P (valueOf id)) : Ensures I P (e.evaluateWith env valueOf) := by
  induction h with
  | literal h =>
    rw [evaluateWith]
    exact ensures_map _ (Evaluation.ensures_ofResult h)
  | designator h =>
    rw [evaluateWith]
    exact ensures_map _ (Evaluation.ensures_ofResult h)
  | selector h =>
    rw [evaluateWith]
    exact ensures_map _ (Evaluation.ensures_ofResult h)
  | @variableRef id =>
    rw [evaluateWith]
    exact hvalue id
  | function h =>
    rw [evaluateWith]
    exact ensures_map _ (Evaluation.ensures_ofResult h)
  | apply h hcall _ ih =>
    rw [evaluateWith, evaluateAllWith_eq_mapM]
    refine ensures_bind (Evaluation.ensures_ofResult h) fun f => ?_
    exact ensures_bind (ensures_mapM ih) fun vs => Evaluation.ensures_ofResult (hcall f vs)

section Explicit

variable (hP : ∀ e : EvaluationError, e.isExplicit = true → P (.evaluation e))
include hP

lemma Literal.errors_resolve {l : Literal} (htype : Errors P (Environment.requireType l.dataType)) :
    Errors P l.resolve := by
  unfold resolve
  split
  · rename_i hnone
    rw [Environment.requireType, hnone] at htype
    exact errors_error (htype _ rfl)
  · rename_i type _
    cases Value.read type l.text with
    | ok v => exact errors_ok v
    | error e => exact errors_error (hP _ rfl)

namespace Environment

variable {env : Environment}

section Values

lemma errors_readBag (type : DataType) (texts : List String) :
    Errors P ((readBag type texts).mapError .evaluation) := by
  unfold readBag
  cases texts.mapM (Value.read type) with
  | ok values => exact errors_ok _
  | error e => exact errors_error (hP _ rfl)

lemma errors_designate {d : Designator} (htype : Errors P (requireType d.dataType))
    (hsource : ∀ query, Errors P ((env.source.values query).mapError .evaluation)) :
    Errors P (env.designate d) := by
  refine errors_bind htype fun type => ?_
  refine errors_bind (hsource _) fun texts => ?_
  refine errors_bind (errors_readBag hP type texts) fun found => ?_
  by_cases hpresent : (if found.isEmpty then
      ⟨type, (env.clockValue? d type).toList⟩ else found : Bag).isEmpty && d.mustBePresent
  · simp only [hpresent, if_true]
    exact errors_error (hP _ rfl)
  · simp only [hpresent]
    exact errors_ok _

lemma errors_select {s : Selector} (htype : Errors P (requireType s.dataType))
    (hsource : ∀ query, Errors P ((env.source.select query).mapError .evaluation)) :
    Errors P (env.select s) := by
  refine errors_bind htype fun type => ?_
  refine errors_bind (hsource _) fun texts => ?_
  refine errors_bind (errors_readBag hP type texts) fun bag => ?_
  split
  · exact errors_error (hP _ rfl)
  · exact errors_ok _

end Values

section Definitions

variable {definitions : List VariableDefinition}

/-- Only what the evaluation of its definition has come to is made known of a variable. -/
lemma ensures_variableValue (hdefinitions : ∀ d ∈ definitions, d.expression.PartsRaise env P)
    (depth : ℕ) (id : String) :
    Ensures (VariableStates.OnlyFaults P) P (env.variableValue definitions depth id) := by
  induction depth generalizing id with
  | zero => exact fun known hknown => ⟨hknown, errors_error (hP _ rfl)⟩
  | succ depth ih =>
    intro known hknown
    rw [variableValue_apply]
    cases hd : definition? definitions id with
    | none => exact ⟨hknown, errors_error (hP _ rfl)⟩
    | some d =>
      rcases hid : known.get? id with _ | _ | result
      · have hparts := hdefinitions d (List.mem_of_find?_eq_some hd)
        have hpending : VariableStates.OnlyFaults P (known.insert id .pending) :=
          hknown.insert id fun e he => nomatch he
        obtain ⟨hstate, herror⟩ := hparts.ensures_evaluateWith ih _ hpending
        simp only [Evaluation.outcome_apply]
        rcases hx : d.expression.evaluateWith env (env.variableValue definitions depth)
          (known.insert id .pending) with ⟨(e | c) | v, known'⟩
        · rw [hx] at hstate herror
          have he : P (.evaluation e) := herror _ rfl
          refine ⟨hstate.insert id fun e' he' => ?_, errors_error he⟩
          cases he'
          exact he
        · rw [hx] at hstate herror
          exact ⟨hstate, errors_error (herror _ rfl)⟩
        · rw [hx] at hstate
          exact ⟨hstate.insert id (fun e' he' => nomatch he'), errors_ok v⟩
      · exact ⟨hknown, errors_error (hP _ rfl)⟩
      · refine ⟨hknown, ?_⟩
        cases result with
        | ok v => exact errors_ok v
        | error e => exact errors_error (hknown id e hid)

theorem ensures_evaluate (hdefinitions : ∀ d ∈ definitions, d.expression.PartsRaise env P)
    {e : Expression} (h : e.PartsRaise env P) :
    Ensures (VariableStates.OnlyFaults P) P (env.evaluate definitions e) :=
  h.ensures_evaluateWith (ensures_variableValue hP hdefinitions _)

variable {I : VariableStates → Prop}

lemma ensures_condition {e : Expression} (h : Ensures I P (env.evaluate definitions e)) :
    Ensures I P (env.evaluateCondition definitions e) := by
  refine ensures_bind h fun v => ?_
  split
  · exact ensures_pure _
  · exact Evaluation.ensures_ofResult (errors_error (hP _ rfl))

lemma ensures_assignment {a : Assignment} (h : Ensures I P (env.evaluate definitions a.expression)) :
    Ensures I P (env.evaluateAssignment definitions a) := by
  refine ensures_bind h fun v => ?_
  cases v with
  | value v => exact ensures_pure _
  | bag b => exact ensures_pure _
  | function f =>
    exact ensures_bind (Evaluation.ensures_ofResult (errors_error (hP _ rfl))) fun _ =>
      ensures_pure _

lemma ensures_obligations (effect : Effect) {duties : List ObligationExpression}
    (h : ∀ o ∈ duties, ∀ a ∈ o.assignments, Ensures I P (env.evaluate definitions a.expression)) :
    Ensures I P (env.evaluateObligations definitions effect duties) := by
  refine ensures_mapM fun o ho => ?_
  have hmem := (List.mem_filter.mp ho).1
  exact ensures_bind (ensures_mapM fun a ha => ensures_assignment hP (h o hmem a ha)) fun _ =>
    ensures_pure _

lemma ensures_duties (effect : Effect) {obligations advice : List ObligationExpression}
    (ho : ∀ o ∈ obligations, ∀ a ∈ o.assignments,
      Ensures I P (env.evaluate definitions a.expression))
    (ha : ∀ o ∈ advice, ∀ a ∈ o.assignments,
      Ensures I P (env.evaluate definitions a.expression)) :
    Ensures I P (env.evaluateDuties definitions effect obligations advice) :=
  ensures_bind (ensures_obligations hP effect ho) fun _ =>
    ensures_bind (ensures_obligations hP effect ha) fun _ => ensures_pure _

end Definitions

end Environment

end Explicit

end PolicyDecision
