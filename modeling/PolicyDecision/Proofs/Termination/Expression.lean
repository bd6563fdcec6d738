import PolicyDecision.Proofs.Termination.Function
import PolicyDecision.Proofs.Variable.Unfolding

/-! The evaluation of expressions without a bound on its depth, as a relation. Whatever the
definitions are, every expression is evaluated in finitely many steps: to begin with a definition
leaves fewer variables unknown. -/

namespace PolicyDecision

open Stateful

/-- One step after the other along a list, until one of them fails. -/
inductive Along {ε σ α β : Type} (step : α → σ → Except ε β × σ → Prop) :
    List α → σ → Except ε (List β) × σ → Prop
  | nil (s : σ) : Along step [] s (.ok [], s)
  | fails {a : α} {l : List α} {s s' : σ} {e : ε} (head : step a s (.error e, s')) :
      Along step (a :: l) s (.error e, s')
  | cons {a : α} {l : List α} {s s' s'' : σ} {b : β} {r : Except ε (List β)}
      (head : step a s (.ok b, s')) (tail : Along step l s' (r, s'')) :
      Along step (a :: l) s (r.map (b :: ·), s'')

/-- Steps that are those of a computation, wherever an invariant holds, are those of the computation
along the list. -/
lemma along_iff {ε σ α β : Type} {step : α → σ → Except ε β × σ → Prop}
    {f : α → ExceptT ε (StateM σ) β} {I : σ → Prop} {l : List α}
    (h : ∀ a ∈ l, ∀ s, I s → (∀ out, step a s out ↔ out = f a s) ∧ I (f a s).2) {s : σ} (hs : I s)
    (out : Except ε (List β) × σ) : Along step l s out ↔ out = l.mapM f s := by
  induction l generalizing s out with
  | nil =>
    constructor
    · rintro ⟨⟩
      rfl
    · rintro rfl
      exact .nil s
  | cons a l ih =>
    obtain ⟨hstep, hI⟩ := h a List.mem_cons_self s hs
    rw [mapM_cons_apply]
    rcases hx : f a s with ⟨e | b, s'⟩
    · rw [hx] at hI hstep
      constructor
      · rintro (_ | head | ⟨head, -⟩)
        · exact (hstep _).mp head ▸ rfl
        · cases (hstep _).mp head
      · rintro rfl
        exact .fails ((hstep _).mpr rfl)
    · rw [hx] at hI hstep
      have htail := @ih (fun c hc => h c (List.mem_cons_of_mem a hc)) s' hI
      constructor
      · rintro (_ | head | ⟨head, tail⟩)
        · cases (hstep _).mp head
        · cases (hstep _).mp head
          simp only [← (htail _).mp tail]
      · rintro rfl
        exact .cons ((hstep _).mpr rfl) ((htail _).mpr rfl)

namespace Environment

variable (env : Environment) (definitions : List VariableDefinition)

/-- Keeps the outcome of a variable, unless an error of the configuration ends everything. -/
def kept (id : String) :
    Except Fault Evaluated × VariableStates → Except Fault Evaluated × VariableStates
  | (.ok v, known) => (.ok v, known.insert id (.done (.ok v)))
  | (.error (.evaluation e), known) => (.error (.evaluation e), known.insert id (.done (.error e)))
  | (.error (.configuration c), known) => (.error (.configuration c), known)

/-- The evaluation of an expression with all the evaluations that it leads to. -/
inductive Computes : Expression → VariableStates → Except Fault Evaluated × VariableStates → Prop
  | literal (l : Literal) (known : VariableStates) :
      Computes (.literal l) known (l.resolve.map .value, known)
  | designator (d : Designator) (known : VariableStates) :
      Computes (.designator d) known ((env.designate d).map .bag, known)
  | selector (s : Selector) (known : VariableStates) :
      Computes (.selector s) known ((env.select s).map .bag, known)
  | function (uri : String) (known : VariableStates) : Computes (.function uri) known
      (((env.functions.require uri).mapError .configuration).map .function, known)
  | undefined {id : String} {known : VariableStates} (missing : definition? definitions id = none) :
      Computes (.variableRef id) known (.error (.evaluation (.undefinedVariable id)), known)
  | pending {id : String} {d : VariableDefinition} {known : VariableStates}
      (found : definition? definitions id = some d) (begun : known.get? id = some .pending) :
      Computes (.variableRef id) known (.error (.evaluation (.circularVariable id)), known)
  | done {id : String} {d : VariableDefinition} {known : VariableStates}
      {outcome : Outcome Evaluated}
      (found : definition? definitions id = some d)
      (ended : known.get? id = some (.done outcome)) :
      Computes (.variableRef id) known (outcome.mapError .evaluation, known)
  | defined {id : String} {d : VariableDefinition} {known : VariableStates}
      {out : Except Fault Evaluated × VariableStates}
      (found : definition? definitions id = some d) (fresh : known.get? id = none)
      (body : Computes d.expression (known.insert id .pending) out) :
      Computes (.variableRef id) known (kept id out)
  | unknownFunction {uri : String} {args : List Expression} {known : VariableStates}
      {c : ConfigurationError} (missing : env.functions.require uri = .error c) :
      Computes (.apply uri args) known (.error (.configuration c), known)
  | argumentFails {uri : String} {args : List Expression} {known known' : VariableStates}
      {f : FunctionRef} {fault : Fault} (found : env.functions.require uri = .ok f)
      (arguments : Along Computes args known (.error fault, known')) :
      Computes (.apply uri args) known (.error fault, known')
  | apply {uri : String} {args : List Expression} {known known' : VariableStates} {f : FunctionRef}
      {values : List Evaluated} {outcome : Outcome Evaluated}
      (found : env.functions.require uri = .ok f)
      (arguments : Along Computes args known (.ok values, known'))
      (returned : f.callee.Returns env.functions.custom env.functionContext values outcome) :
      Computes (.apply uri args) known
        ((outcome.mapError (.raisedBy f.uri)).mapError .evaluation, known')

variable {env definitions}

/-- A variable of which nothing is known evaluates to what its definition does. -/
lemma evaluate_variableRef_fresh {id : String} {d : VariableDefinition} {known : VariableStates}
    (hd : definition? definitions id = some d) (hid : known.get? id = none) :
    env.evaluate definitions (.variableRef id) known =
      kept id (env.evaluate definitions d.expression (known.insert id .pending)) := by
  rw [evaluate_variableRef, hd]
  simp only [hid]
  rw [Evaluation.outcome_apply]
  rcases env.evaluate definitions d.expression (known.insert id .pending) with
    ⟨(_ | _) | _, _⟩ <;> rfl

/-- A variable computes what it evaluates to if its definition does, once it is pending. -/
lemma computes_variableRef {id : String} {known : VariableStates}
    (hbody : ∀ d, definition? definitions id = some d → known.get? id = none → ∀ out,
      env.Computes definitions d.expression (known.insert id .pending) out ↔
        out = env.evaluate definitions d.expression (known.insert id .pending))
    (out : Except Fault Evaluated × VariableStates) :
    env.Computes definitions (.variableRef id) known out ↔
      out = env.evaluate definitions (.variableRef id) known := by
  cases hd : definition? definitions id with
  | none =>
    rw [evaluate_variableRef, hd]
    constructor
    · intro h
      cases h <;> simp_all
    · rintro rfl
      exact .undefined hd
  | some d =>
    rcases hid : known.get? id with _ | _ | outcome
    · rw [evaluate_variableRef_fresh hd hid]
      constructor
      · intro h
        cases h with
        | defined found fresh body =>
          cases hd.symm.trans found
          rw [(hbody d hd hid _).mp body]
        | _ => simp_all
      · rintro rfl
        exact .defined hd hid ((hbody d hd hid _).mpr rfl)
    · rw [evaluate_variableRef, hd]
      simp only [hid]
      constructor
      · intro h
        cases h <;> simp_all
      · rintro rfl
        exact .pending hd hid
    · rw [evaluate_variableRef, hd]
      simp only [hid]
      constructor
      · intro h
        cases h <;> simp_all
      · rintro rfl
        exact .done hd hid

/-- A call computes what it evaluates to if its arguments do. -/
lemma computes_apply {uri : String} {args : List Expression} {known : VariableStates}
    (hargs : ∀ out, Along (env.Computes definitions) args known out ↔
      out = args.mapM (env.evaluate definitions) known)
    (out : Except Fault Evaluated × VariableStates) :
    env.Computes definitions (.apply uri args) known out ↔
      out = env.evaluate definitions (.apply uri args) known := by
  rw [evaluate_apply]
  cases hf : env.functions.require uri with
  | error c =>
    constructor
    · intro h
      cases h <;> simp_all
    · rintro rfl
      exact .unknownFunction hf
  | ok f =>
    rcases hx : args.mapM (env.evaluate definitions) known with ⟨fault | values, known'⟩
    · constructor
      · intro h
        cases h <;> simp_all [Except.bind]
      · rintro rfl
        exact .argumentFails hf ((hargs _).mpr hx.symm)
    · constructor
      · intro h
        cases h with
        | unknownFunction missing => simp_all
        | argumentFails found arguments =>
          cases ((hargs _).mp arguments).trans hx
        | apply found arguments returned =>
          cases hf.symm.trans found
          cases ((hargs _).mp arguments).trans hx
          rw [returned.eq_call]
          rfl
      · rintro rfl
        exact .apply hf ((hargs _).mpr hx.symm) (Callee.returns_call _ _ f.callee values)

/-- What an expression computes is what it evaluates to. -/
theorem computes_iff (e : Expression) (known : VariableStates)
    (out : Except Fault Evaluated × VariableStates) :
    env.Computes definitions e known out ↔ out = env.evaluate definitions e known := by
  suffices hbound : ∀ bound e known, unknown definitions known ≤ bound → ∀ out,
      env.Computes definitions e known out ↔ out = env.evaluate definitions e known from
    hbound _ e known (Nat.le_refl _) out
  intro bound
  induction bound using Nat.strongRecOn with
  | ind bound ih =>
    intro e
    induction e using Expression.induction with
    | literal l =>
      intro known _ out
      rw [evaluate, Expression.evaluateWith_literal]
      exact ⟨fun h => by cases h; rfl, by rintro rfl; exact .literal l known⟩
    | designator d =>
      intro known _ out
      rw [evaluate, Expression.evaluateWith_designator]
      exact ⟨fun h => by cases h; rfl, by rintro rfl; exact .designator d known⟩
    | selector s =>
      intro known _ out
      rw [evaluate, Expression.evaluateWith_selector]
      exact ⟨fun h => by cases h; rfl, by rintro rfl; exact .selector s known⟩
    | function uri =>
      intro known _ out
      rw [evaluate, Expression.evaluateWith_function]
      exact ⟨fun h => by cases h; rfl, by rintro rfl; exact .function uri known⟩
    | variableRef id =>
      intro known hknown
      refine computes_variableRef fun d hd hid => ?_
      have hlt := unknown_insert_lt hd hid .pending
      exact ih _ (Nat.lt_of_lt_of_le hlt hknown) d.expression _ (Nat.le_refl _)
    | apply uri args ihargs =>
      intro known hknown out
      have hargs := along_iff (I := fun known => unknown definitions known ≤ bound)
        (fun e he known hknown => ⟨ihargs e he known hknown,
          Nat.le_trans (env.unknown_evaluate_le definitions e known) hknown⟩) hknown
      exact computes_apply hargs out

end Environment

end PolicyDecision
