import PolicyDecision.Proofs.Expression.Basic

/-! The evaluation of variables without a bound on its depth. Each level of the recursion makes one
more definition known, so that the bound is never met. -/

namespace PolicyDecision

open Stateful

/-- Two ways to find the values of variables that agree where an invariant holds, and preserve it,
agree on all expressions. -/
lemma Expression.evaluateWith_congr {env : Environment} {f g : String → Evaluation Evaluated}
    {I : VariableStates → Prop}
    (h : ∀ id known, I known → f id known = g id known ∧ I (f id known).2) (e : Expression)
    (known : VariableStates) (hknown : I known) :
    e.evaluateWith env f known = e.evaluateWith env g known ∧ I (e.evaluateWith env f known).2 := by
  induction e using Expression.induction generalizing known with
  | literal l => simpa using hknown
  | designator d => simpa using hknown
  | selector s => simpa using hknown
  | variableRef id => simpa using h id known hknown
  | function uri => simpa using hknown
  | apply uri args ih =>
    obtain ⟨hargs, hI⟩ := mapM_congr ih known hknown
    rw [evaluateWith_apply, evaluateWith_apply, ← hargs]
    cases env.functions.require uri with
    | error c => exact ⟨rfl, hknown⟩
    | ok f => exact ⟨rfl, hI⟩

/-- How many definitions nothing is known of yet. -/
def unknown (definitions : List VariableDefinition) (known : VariableStates) : ℕ :=
  definitions.countP fun d => (known.get? d.id).isNone

section Unknown

variable {definitions : List VariableDefinition} {known : VariableStates} {id : String}
  {d : VariableDefinition}

lemma unknown_le_length : unknown definitions known ≤ definitions.length := List.countP_le_length

lemma unknown_insert_le (s : VariableState) :
    unknown definitions (known.insert id s) ≤ unknown definitions known := by
  refine List.countP_mono_left fun d _ hd => ?_
  by_cases hid : d.id = id
  · rw [hid, Catalogue.get?_insert_self] at hd
    cases hd
  · rwa [Catalogue.get?_insert_of_ne known hid] at hd

lemma id_eq_of_definition? (hd : definition? definitions id = some d) : d.id = id := by
  have h := List.find?_some hd
  simpa using h

lemma mem_of_definition? (hd : definition? definitions id = some d) : d ∈ definitions :=
  List.mem_of_find?_eq_some hd

/-- To begin with a definition leaves fewer unknown. -/
lemma unknown_insert_lt (hd : definition? definitions id = some d) (hid : known.get? id = none)
    (s : VariableState) : unknown definitions (known.insert id s) < unknown definitions known := by
  obtain ⟨before, after, rfl⟩ := List.append_of_mem (mem_of_definition? hd)
  have hdid := id_eq_of_definition? hd
  have hbefore := @unknown_insert_le before known id s
  have hafter := @unknown_insert_le after known id s
  simp only [unknown] at hbefore hafter ⊢
  rw [List.countP_append, List.countP_append, List.countP_cons, List.countP_cons, hdid, hid,
    Catalogue.get?_insert_self]
  simp only [Option.isNone_some, Option.isNone_none, Bool.false_eq_true, if_true, if_false]
  omega

end Unknown

namespace Environment

variable {env : Environment} {definitions : List VariableDefinition}

/-- A bound above the number of unknown definitions makes no difference, and evaluation leaves no
more unknown. -/
lemma variableValue_of_unknown_lt {bound : ℕ} {depth depth' : ℕ} (h : bound < depth)
    (h' : bound < depth') (id : String) (known : VariableStates)
    (hknown : unknown definitions known ≤ bound) :
    env.variableValue definitions depth id known = env.variableValue definitions depth' id known ∧
      unknown definitions (env.variableValue definitions depth id known).2 ≤ bound := by
  induction bound using Nat.strongRecOn generalizing depth depth' id known with
  | ind bound ih =>
    obtain ⟨k, rfl⟩ := Nat.exists_eq_add_of_lt h
    obtain ⟨k', rfl⟩ := Nat.exists_eq_add_of_lt h'
    rw [variableValue_apply, variableValue_apply]
    cases hd : definition? definitions id with
    | none => exact ⟨rfl, hknown⟩
    | some d =>
      rcases hid : known.get? id with _ | _ | result
      · have hlt := unknown_insert_lt hd hid .pending
        have hinner : ∀ id known, unknown definitions known ≤ bound - 1 →
            env.variableValue definitions (bound + k) id known =
                env.variableValue definitions (bound + k') id known ∧
              unknown definitions (env.variableValue definitions (bound + k) id known).2 ≤
                bound - 1 := fun id known hI =>
          ih (bound - 1) (by omega) (by omega) (by omega) id known hI
        obtain ⟨heq, hI⟩ := Expression.evaluateWith_congr hinner d.expression
          (known.insert id .pending) (by omega)
        simp only
        rw [Evaluation.outcome_apply, Evaluation.outcome_apply, ← heq]
        refine ⟨rfl, ?_⟩
        rcases hx : d.expression.evaluateWith env (env.variableValue definitions (bound + k))
          (known.insert id .pending) with ⟨(e | e) | v, known'⟩
        · rw [hx] at hI
          have hle := @unknown_insert_le definitions known' id (.done (.error e))
          exact Nat.le_trans hle (Nat.le_trans hI (Nat.sub_le bound 1))
        · rw [hx] at hI
          exact Nat.le_trans hI (Nat.sub_le bound 1)
        · rw [hx] at hI
          have hle := @unknown_insert_le definitions known' id (.done (.ok v))
          exact Nat.le_trans hle (Nat.le_trans hI (Nat.sub_le bound 1))
      · exact ⟨rfl, hknown⟩
      · exact ⟨rfl, hknown⟩

variable (env definitions)

lemma unknown_evaluate_le (e : Expression) (known : VariableStates) :
    unknown definitions (env.evaluate definitions e known).2 ≤ unknown definitions known := by
  have hlt : unknown definitions known < definitions.length + 1 :=
    Nat.lt_succ_of_le unknown_le_length
  exact (Expression.evaluateWith_congr (fun id known' hknown' =>
    variableValue_of_unknown_lt hlt hlt id known' hknown') e known (Nat.le_refl _)).2

/-- The value of a variable is the known one, or that of its definition, in the evaluation of which
the variable is pending. -/
theorem evaluate_variableRef (id : String) (known : VariableStates) :
    env.evaluate definitions (.variableRef id) known = match definition? definitions id with
      | none => (.error (.evaluation (.undefinedVariable id)), known)
      | some d => match known.get? id with
        | some (.done result) => (result.mapError .evaluation, known)
        | some .pending => (.error (.evaluation (.circularVariable id)), known)
        | none =>
          match Evaluation.outcome (env.evaluate definitions d.expression)
              (known.insert id .pending) with
          | (.ok result, known') => (result.mapError .evaluation, known'.insert id (.done result))
          | (.error e, known') => (.error e, known') := by
  rw [evaluate, Expression.evaluateWith_variableRef, variableValue_apply]
  cases hd : definition? definitions id with
  | none => rfl
  | some d =>
    rcases hid : known.get? id with _ | _ | result
    · have hlt := unknown_insert_lt hd hid .pending
      have hle := @unknown_le_length definitions known
      have hinner : ∀ id known', unknown definitions known' ≤ definitions.length - 1 →
          env.variableValue definitions definitions.length id known' =
              env.variableValue definitions (definitions.length + 1) id known' ∧
            unknown definitions (env.variableValue definitions definitions.length id known').2 ≤
              definitions.length - 1 := fun id known' hknown' =>
        variableValue_of_unknown_lt (by omega) (by omega) id known' hknown'
      obtain ⟨heq, -⟩ := Expression.evaluateWith_congr hinner d.expression
        (known.insert id .pending) (by omega)
      simp only
      rw [Evaluation.outcome_apply, heq, Evaluation.outcome_apply]
      rfl
    · rfl
    · rfl

lemma evaluate_apply (uri : String) (args : List Expression) (known : VariableStates) :
    env.evaluate definitions (.apply uri args) known = match env.functions.require uri with
      | .error c => (.error (.configuration c), known)
      | .ok f =>
        ((args.mapM (env.evaluate definitions) known).1.bind (Expression.called env f),
          (args.mapM (env.evaluate definitions) known).2) :=
  Expression.evaluateWith_apply env _ uri args known

end Environment
end PolicyDecision
