import PolicyDecision.Proofs.Variable.Expansion

/-! The values of variables that are kept while a policy is evaluated are those of their
definitions. -/

namespace PolicyDecision

open Stateful Relation

namespace Expression

variable {definitions : List VariableDefinition}

lemma leadsToCycle_variableRef {id : String} :
    (variableRef id).LeadsToCycle definitions ↔ PolicyDecision.LeadsToCycle definitions id := by
  simp [LeadsToCycle, mentions]

lemma leadsToCycle_apply {uri : String} {args : List Expression} :
    (apply uri args).LeadsToCycle definitions ↔ ∃ e ∈ args, e.LeadsToCycle definitions := by
  simp only [LeadsToCycle, mentions, mem_mentionsAll]
  constructor
  · rintro ⟨id, ⟨e, he, hid⟩, hcycle⟩
    exact ⟨e, he, id, hid, hcycle⟩
  · rintro ⟨e, he, id, hid, hcycle⟩
    exact ⟨id, ⟨e, he, hid⟩, hcycle⟩

end Expression

namespace Environment

variable (env : Environment) (definitions : List VariableDefinition)

/-- What an expression may evaluate to: an error where its variables lead to a cycle, and otherwise
what it evaluates to with its variables replaced by their definitions. -/
structure Agrees (e : Expression) (result : Except Fault Evaluated) : Prop where
  of_acyclic : ¬ e.LeadsToCycle definitions → result = env.value (e.expanded definitions)
  of_cyclic : e.LeadsToCycle definitions → ∃ fault, result = .error fault

/-- Every outcome that is kept is one that the variable may have. -/
def Faithful (known : VariableStates) : Prop :=
  ∀ id outcome, known.get? id = some (.done outcome) →
    env.Agrees definitions (.variableRef id) (outcome.mapError .evaluation)

/-- The variables that are pending lead to all those of the expression. -/
def PendingLeadTo (known : VariableStates) (e : Expression) : Prop :=
  ∀ p, known.get? p = some .pending → ∀ x ∈ e.mentions, TransGen (Mentions definitions) p x

/-- What an evaluation leaves behind: outcomes that variables may have, and, unless an error of the
configuration has ended it, the same variables pending as before. -/
structure Keeps {α : Type} (known : VariableStates) (out : Except Fault α × VariableStates) :
    Prop where
  faithful : env.Faithful definitions out.2
  pending : (∀ c, out.1 ≠ .error (.configuration c)) →
    ∀ p, out.2.get? p = some .pending ↔ known.get? p = some .pending

variable {env definitions} {known : VariableStates}

lemma keeps_self {α : Type} (h : env.Faithful definitions known) (r : Except Fault α) :
    env.Keeps definitions known (r, known) := ⟨h, fun _ _ => Iff.rfl⟩

lemma faithful_empty : env.Faithful definitions ∅ := by
  intro id outcome h
  cases h

lemma faithful_insert_pending (h : env.Faithful definitions known) (id : String) :
    env.Faithful definitions (known.insert id .pending) := by
  intro x outcome hx
  by_cases hid : x = id
  · rw [hid, Catalogue.get?_insert_self] at hx
    cases hx
  · rw [Catalogue.get?_insert_of_ne known hid] at hx
    exact h x outcome hx

lemma faithful_insert_done (h : env.Faithful definitions known) {id : String}
    {outcome : Outcome Evaluated}
    (hid : env.Agrees definitions (.variableRef id) (outcome.mapError .evaluation)) :
    env.Faithful definitions (known.insert id (.done outcome)) := by
  intro x outcome' hx
  by_cases hx' : x = id
  · rw [hx', Catalogue.get?_insert_self] at hx
    cases hx
    rwa [hx']
  · rw [Catalogue.get?_insert_of_ne known hx'] at hx
    exact h x outcome' hx

/-- Once a definition has been entered, its variable leads to all that it mentions. -/
lemma pendingLeadTo_insert {id : String} {d : VariableDefinition}
    (hd : definition? definitions id = some d)
    (h : PendingLeadTo definitions known (.variableRef id)) :
    PendingLeadTo definitions (known.insert id .pending) d.expression := by
  intro p hp x hx
  have hmentions : Mentions definitions id x := by rwa [Mentions, mentioned_of_definition? hd]
  by_cases hid : p = id
  · rw [hid]
    exact .single hmentions
  · rw [Catalogue.get?_insert_of_ne known hid] at hp
    exact (h p hp id (by simp [Expression.mentions])).tail hmentions

lemma pendingLeadTo_argument {uri : String} {args : List Expression}
    (h : PendingLeadTo definitions known (.apply uri args)) {e : Expression} (he : e ∈ args) :
    PendingLeadTo definitions known e := by
  intro p hp x hx
  refine h p hp x ?_
  rw [Expression.mentions]
  exact Expression.mem_mentionsAll.mpr ⟨e, he, hx⟩

/-- A variable may have whatever its definition may have. -/
lemma agrees_variableRef {id : String} {d : VariableDefinition}
    (hd : definition? definitions id = some d) {result : Except Fault Evaluated}
    (h : env.Agrees definitions d.expression result) :
    env.Agrees definitions (.variableRef id) result := by
  have hiff : (Expression.variableRef id).LeadsToCycle definitions ↔
      d.expression.LeadsToCycle definitions :=
    Expression.leadsToCycle_variableRef.trans (leadsToCycle_iff hd)
  refine ⟨fun hcycle => ?_, fun hcycle => h.of_cyclic (hiff.mp hcycle)⟩
  rw [Expression.expanded_variableRef hd (mt Expression.leadsToCycle_variableRef.mpr hcycle)]
  exact h.of_acyclic (mt hiff.mpr hcycle)

/-- What the evaluation of a list of expressions may yield. -/
structure AgreesAll (env : Environment) (definitions : List VariableDefinition)
    (es : List Expression) (result : Except Fault (List Evaluated)) : Prop where
  of_acyclic : (¬ ∃ e ∈ es, e.LeadsToCycle definitions) →
    result = es.mapM fun e => env.value (e.expanded definitions)
  of_cyclic : (∃ e ∈ es, e.LeadsToCycle definitions) → ∃ fault, result = .error fault

/-- The evaluations of the arguments of a call, one after the other. -/
lemma agreesAll_of_agrees {bound : ℕ} {es : List Expression}
    (h : ∀ e ∈ es, ∀ known, unknown definitions known ≤ bound → env.Faithful definitions known →
      PendingLeadTo definitions known e →
      env.Agrees definitions e (env.evaluate definitions e known).1 ∧
        env.Keeps definitions known (env.evaluate definitions e known))
    (hbound : unknown definitions known ≤ bound) (hfaithful : env.Faithful definitions known)
    (hpending : ∀ e ∈ es, PendingLeadTo definitions known e) :
    env.AgreesAll definitions es (es.mapM (env.evaluate definitions) known).1 ∧
      env.Keeps definitions known (es.mapM (env.evaluate definitions) known) := by
  induction es generalizing known with
  | nil =>
    refine ⟨⟨fun _ => rfl, ?_⟩, keeps_self hfaithful _⟩
    rintro ⟨e, he, -⟩
    cases he
  | cons e es ih =>
    obtain ⟨hagrees, hkeeps⟩ := h e List.mem_cons_self known hbound hfaithful
      (hpending e List.mem_cons_self)
    have hle := unknown_evaluate_le env definitions e known
    rw [mapM_cons_apply]
    rcases he : env.evaluate definitions e known with ⟨fault | v, known'⟩
    · rw [he] at hagrees hkeeps
      refine ⟨⟨fun hcycle => ?_, fun _ => ⟨fault, rfl⟩⟩, hkeeps.faithful, fun hc => ?_⟩
      · have hvalue := hagrees.of_acyclic fun hc => hcycle ⟨e, List.mem_cons_self, hc⟩
        simp only at hvalue
        rw [List.mapM_cons, ← hvalue]
        rfl
      · exact hkeeps.pending fun c hc' => hc c (by rw [Except.error.inj hc'])
    · rw [he] at hagrees hkeeps hle
      have hacyclic : ¬ e.LeadsToCycle definitions := by
        intro hcycle
        obtain ⟨fault, hfault⟩ := hagrees.of_cyclic hcycle
        cases hfault
      have hsame := hkeeps.pending (by simp)
      obtain ⟨hagrees', hkeeps'⟩ := ih (fun e' he' => h e' (List.mem_cons_of_mem e he'))
        (Nat.le_trans hle hbound) hkeeps.faithful
        fun e' he' p hp => hpending e' (List.mem_cons_of_mem e he') p ((hsame p).mp hp)
      refine ⟨⟨fun hcycle => ?_, ?_⟩, hkeeps'.faithful, fun hc p => ?_⟩
      · have hvalue := hagrees.of_acyclic hacyclic
        have htail := hagrees'.of_acyclic fun ⟨e', he', hc⟩ =>
          hcycle ⟨e', List.mem_cons_of_mem e he', hc⟩
        simp only at hvalue ⊢
        rw [htail, List.mapM_cons, ← hvalue]
        cases es.mapM fun e => env.value (e.expanded definitions) <;> rfl
      · rintro ⟨e', he', hc⟩
        rcases List.mem_cons.mp he' with rfl | he'
        · exact absurd hc hacyclic
        · obtain ⟨fault, hfault⟩ := hagrees'.of_cyclic ⟨e', he', hc⟩
          exact ⟨fault, by simp only [hfault]; rfl⟩
      · refine (hkeeps'.pending (fun c hc' => hc c ?_) p).trans (hsame p)
        simp only [hc']
        rfl

lemma agrees_of_closed {e : Expression} (hclosed : e.mentions = [])
    (heq : env.evaluate definitions e known = (env.value e, known))
    (hfaithful : env.Faithful definitions known) :
    env.Agrees definitions e (env.evaluate definitions e known).1 ∧
      env.Keeps definitions known (env.evaluate definitions e known) := by
  rw [heq]
  refine ⟨⟨fun _ => by rw [Expression.expanded_of_closed hclosed], ?_⟩, keeps_self hfaithful _⟩
  rintro ⟨id, hid, -⟩
  rw [hclosed] at hid
  cases hid

/-- The first reference to a variable enters its definition and keeps the outcome. -/
lemma agrees_of_definition {id : String} {d : VariableDefinition}
    (hd : definition? definitions id = some d) (hid : known.get? id = none)
    (hagrees : env.Agrees definitions d.expression
      (env.evaluate definitions d.expression (known.insert id .pending)).1)
    (hkeeps : env.Keeps definitions (known.insert id .pending)
      (env.evaluate definitions d.expression (known.insert id .pending))) :
    env.Agrees definitions (.variableRef id) (env.evaluate definitions (.variableRef id) known).1 ∧
      env.Keeps definitions known (env.evaluate definitions (.variableRef id) known) := by
  rw [evaluate_variableRef, hd]
  simp only [hid, Evaluation.outcome_apply]
  rcases hx : env.evaluate definitions d.expression (known.insert id .pending) with
    ⟨result, known'⟩
  rw [hx] at hagrees hkeeps
  have hvariable := agrees_variableRef hd hagrees
  have hsame : (∀ c, result ≠ .error (.configuration c)) → ∀ p outcome,
      (known'.insert id (.done outcome)).get? p = some .pending ↔
        known.get? p = some .pending := by
    intro hc p outcome
    by_cases hp : p = id
    · rw [hp, Catalogue.get?_insert_self, hid]
      simp
    · rw [Catalogue.get?_insert_of_ne _ hp, hkeeps.pending hc p,
        Catalogue.get?_insert_of_ne known hp]
  rcases result with (e | c) | v
  · exact ⟨hvariable, faithful_insert_done hkeeps.faithful hvariable, fun hc p => hsame hc p _⟩
  · exact ⟨hvariable, hkeeps.faithful, fun hc => absurd rfl (hc c)⟩
  · exact ⟨hvariable, faithful_insert_done hkeeps.faithful hvariable, fun hc p => hsame hc p _⟩

lemma agrees_of_arguments {args : List Expression} (uri : String)
    (hagrees : env.AgreesAll definitions args (args.mapM (env.evaluate definitions) known).1)
    (hkeeps : env.Keeps definitions known (args.mapM (env.evaluate definitions) known))
    (hfaithful : env.Faithful definitions known) :
    env.Agrees definitions (.apply uri args) (env.evaluate definitions (.apply uri args) known).1 ∧
      env.Keeps definitions known (env.evaluate definitions (.apply uri args) known) := by
  rw [evaluate_apply]
  cases hf : env.functions.require uri with
  | error c =>
    refine ⟨⟨fun _ => ?_, fun _ => ⟨_, rfl⟩⟩, keeps_self hfaithful _⟩
    rw [Expression.expanded_apply, value_apply, hf]
  | ok f =>
    refine ⟨⟨fun hcycle => ?_, fun hcycle => ?_⟩, hkeeps.faithful, fun hc => ?_⟩
    · have hargs := hagrees.of_acyclic (mt Expression.leadsToCycle_apply.mpr hcycle)
      rw [Expression.expanded_apply, value_apply, hf, List.mapM_map]
      exact congrArg (Except.bind · (Expression.called env f)) hargs
    · obtain ⟨fault, hfault⟩ := hagrees.of_cyclic (Expression.leadsToCycle_apply.mp hcycle)
      exact ⟨fault, by simp only [hfault]; rfl⟩
    · refine hkeeps.pending fun c hc' => hc c ?_
      simp only [hc']
      rfl

/-- An expression that is evaluated while faithful outcomes are kept yields what it may, and leaves
faithful outcomes behind. Each definition that is entered leaves fewer unknown. -/
lemma agrees_of_unknown_le (bound : ℕ) (e : Expression) (known : VariableStates)
    (hbound : unknown definitions known ≤ bound) (hfaithful : env.Faithful definitions known)
    (hpending : PendingLeadTo definitions known e) :
    env.Agrees definitions e (env.evaluate definitions e known).1 ∧
      env.Keeps definitions known (env.evaluate definitions e known) := by
  induction bound using Nat.strongRecOn generalizing e known with
  | ind bound ihbound =>
    induction e using Expression.induction generalizing known with
    | literal l =>
      exact agrees_of_closed rfl (by simp only [value, evaluate, Expression.evaluateWith_literal])
        hfaithful
    | designator d =>
      exact agrees_of_closed rfl
        (by simp only [value, evaluate, Expression.evaluateWith_designator]) hfaithful
    | selector s =>
      exact agrees_of_closed rfl (by simp only [value, evaluate, Expression.evaluateWith_selector])
        hfaithful
    | function uri =>
      exact agrees_of_closed rfl (by simp only [value, evaluate, Expression.evaluateWith_function])
        hfaithful
    | variableRef id =>
      cases hd : definition? definitions id with
      | none =>
        rw [evaluate_variableRef, hd]
        refine ⟨⟨fun _ => ?_, fun _ => ⟨_, rfl⟩⟩, keeps_self hfaithful _⟩
        rw [Expression.expanded_undefined hd, value_variableRef]
      | some d =>
        rcases hid : known.get? id with _ | _ | outcome
        · have hlt := unknown_insert_lt hd hid .pending
          obtain ⟨hagrees, hkeeps⟩ := ihbound _ (Nat.lt_of_lt_of_le hlt hbound) d.expression _
            (Nat.le_refl _) (faithful_insert_pending hfaithful id) (pendingLeadTo_insert hd hpending)
          exact agrees_of_definition hd hid hagrees hkeeps
        · rw [evaluate_variableRef, hd]
          simp only [hid]
          refine ⟨⟨fun hcycle => ?_, fun _ => ⟨_, rfl⟩⟩, keeps_self hfaithful _⟩
          have hloop := hpending id hid id (by simp [Expression.mentions])
          exact absurd (Expression.leadsToCycle_variableRef.mpr ⟨id, .refl, hloop⟩) hcycle
        · rw [evaluate_variableRef, hd]
          simp only [hid]
          exact ⟨hfaithful id outcome hid, keeps_self hfaithful _⟩
    | apply uri args ih =>
      obtain ⟨hagrees, hkeeps⟩ := agreesAll_of_agrees ih hbound hfaithful
        fun e he => pendingLeadTo_argument hpending he
      exact agrees_of_arguments uri hagrees hkeeps hfaithful

lemma agrees_evaluate {e : Expression} (hfaithful : env.Faithful definitions known)
    (hpending : PendingLeadTo definitions known e) :
    env.Agrees definitions e (env.evaluate definitions e known).1 ∧
      env.Keeps definitions known (env.evaluate definitions e known) :=
  agrees_of_unknown_le _ e known (Nat.le_refl _) hfaithful hpending

variable (env definitions) in
/-- What can be known between two evaluations in the scope of a policy: expressions have been
evaluated, any of them and in any order, and no error of the configuration has ended that. -/
inductive Settled : VariableStates → Prop
  | start : Settled ∅
  | next {known : VariableStates} (h : Settled known) (e : Expression)
      (hcontinue : ∀ c, (env.evaluate definitions e known).1 ≠ .error (.configuration c)) :
      Settled (env.evaluate definitions e known).2

lemma Settled.faithful (h : env.Settled definitions known) :
    env.Faithful definitions known ∧ ∀ p, known.get? p ≠ some .pending := by
  induction h with
  | start => exact ⟨faithful_empty, fun p hp => by cases hp⟩
  | next _ e hcontinue ih =>
    obtain ⟨hfaithful, hnone⟩ := ih
    have hpending : PendingLeadTo definitions _ e := fun p hp => absurd hp (hnone p)
    obtain ⟨-, hkeeps⟩ := agrees_evaluate hfaithful hpending
    exact ⟨hkeeps.faithful, fun p hp => hnone p ((hkeeps.pending hcontinue p).mp hp)⟩

variable (env definitions) in
/-- What can be known when the evaluation of an expression begins: of one in the scope of a policy,
of a definition that has just been entered, or of an argument after those before it. -/
inductive Moment : VariableStates → Expression → Prop
  | start {known : VariableStates} (h : env.Settled definitions known) (e : Expression) :
      Moment known e
  | definition {known : VariableStates} {id : String} {d : VariableDefinition}
      (h : Moment known (.variableRef id)) (hd : definition? definitions id = some d)
      (hid : known.get? id = none) : Moment (known.insert id .pending) d.expression
  | argument {known known' : VariableStates} {uri : String} {before after : List Expression}
      {e : Expression} {values : List Evaluated}
      (h : Moment known (.apply uri (before ++ e :: after)))
      (hbefore : before.mapM (env.evaluate definitions) known = (.ok values, known')) :
      Moment known' e

lemma Moment.faithful {e : Expression} (h : env.Moment definitions known e) :
    env.Faithful definitions known ∧ PendingLeadTo definitions known e := by
  induction h with
  | start h e =>
    obtain ⟨hfaithful, hnone⟩ := h.faithful
    exact ⟨hfaithful, fun p hp => absurd hp (hnone p)⟩
  | definition _ hd _ ih =>
    exact ⟨faithful_insert_pending ih.1 _, pendingLeadTo_insert hd ih.2⟩
  | @argument known known' uri before after e values _ hbefore ih =>
    obtain ⟨hfaithful, hpending⟩ := ih
    have hlead : ∀ e' ∈ before ++ e :: after, PendingLeadTo definitions known e' :=
      fun e' he' => pendingLeadTo_argument hpending he'
    obtain ⟨-, hkeeps⟩ := agreesAll_of_agrees
      (fun e' _ known' _ hfaithful' hpending' => agrees_evaluate hfaithful' hpending')
      (Nat.le_refl (unknown definitions known)) hfaithful
      fun e' he' => hlead e' (List.mem_append_left _ he')
    rw [hbefore] at hkeeps
    refine ⟨hkeeps.faithful, fun p hp x hx => ?_⟩
    have hsame := hkeeps.pending (by simp) p
    exact hlead e (List.mem_append_right _ List.mem_cons_self) p (hsame.mp hp) x hx

/-- Whatever has been evaluated before, an expression has the value or the error that it has with
every variable replaced by its definition; an expression whose variables lead to a cycle has an
error. -/
theorem evaluate_transparent {p : Policy} {e : Expression}
    (h : env.Moment p.definitions known e) :
    (¬ e.LeadsToCycle p.definitions →
        (env.evaluate p.definitions e known).1 =
          (env.evaluate [] (e.expanded p.definitions) ∅).1 ∧
        ∀ id ∈ (e.expanded p.definitions).mentions, definition? p.definitions id = none) ∧
      (e.LeadsToCycle p.definitions →
        ∃ fault, (env.evaluate p.definitions e known).1 = .error fault) := by
  obtain ⟨hagrees, -⟩ := agrees_evaluate h.faithful.1 h.faithful.2
  refine ⟨fun hcycle => ⟨hagrees.of_acyclic hcycle, fun id hid => ?_⟩, hagrees.of_cyclic⟩
  exact Expression.mentions_expanded hcycle hid

/-- An environment without attributes, functions, algorithms and stored policies. -/
def barren : Environment where
  version := .v3_0
  source := { values := fun _ => .ok [] }
  functions := .empty
  algorithms := .empty
  repository := ⟨fun _ _ => none, fun _ _ => none⟩
  maxReferenceDepth := 0
  collectPolicies := true
  clock := none

/-- Two variables, one of which is another name for the other. -/
def aliased : Policy where
  heading := { id := "orders", algorithm := "" }
  definitions :=
    [⟨"kind", .literal ⟨DataType.string.uri, "order"⟩⟩, ⟨"alias", .variableRef "kind"⟩]

/-- The second time, the alias is not evaluated but known. -/
theorem evaluate_alias_again : ∃ known, known.contains "alias" = true ∧
    barren.Moment aliased.definitions known (.variableRef "alias") ∧
    ¬ (Expression.variableRef "alias").LeadsToCycle aliased.definitions ∧
    (barren.evaluate aliased.definitions (.variableRef "alias") known).1 =
      (barren.evaluate [] (.literal ⟨DataType.string.uri, "order"⟩) ∅).1 := by
  have hfirst : (barren.evaluate aliased.definitions (.variableRef "alias") ∅).1 =
      .ok (.value (.string "order")) := by rfl
  have hmoment : barren.Moment aliased.definitions
      (barren.evaluate aliased.definitions (.variableRef "alias") ∅).2 (.variableRef "alias") :=
    .start (.next .start _ (by simp [hfirst])) _
  have hcycle : ¬ (Expression.variableRef "alias").LeadsToCycle aliased.definitions := by
    decide
  exact ⟨_, by rfl, hmoment, hcycle, ((evaluate_transparent hmoment).1 hcycle).1⟩

end Environment
end PolicyDecision
