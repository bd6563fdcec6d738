import PolicyDecision.Proofs.Variable.Graph
import PolicyDecision.Proofs.Variable.Unfolding

/-! Expressions in which every variable has been replaced by its definition, and their values. -/

namespace PolicyDecision

namespace Expression

mutual

/-- Puts expressions in the place of variables. -/
def substitute (replacement : String → Expression) : Expression → Expression
  | literal l => literal l
  | designator d => designator d
  | selector s => selector s
  | variableRef id => replacement id
  | function uri => function uri
  | apply uri args => apply uri (substituteAll replacement args)

def substituteAll (replacement : String → Expression) : List Expression → List Expression
  | [] => []
  | e :: es => substitute replacement e :: substituteAll replacement es

end

/-- Replaces variables by their definitions, and those in the definitions, so many levels deep. -/
def expandedWithin (definitions : List VariableDefinition) : ℕ → Expression → Expression
  | 0, e => e
  | n + 1, e => e.substitute fun id =>
    match definition? definitions id with
    | some d => expandedWithin definitions n d.expression
    | none => variableRef id

/-- The expression with every variable replaced by its definition. An undefined variable stays. -/
def expanded (definitions : List VariableDefinition) (e : Expression) : Expression :=
  e.expandedWithin definitions definitions.length

section Substitution

variable {f g : String → Expression}

lemma substituteAll_eq_map (es : List Expression) : substituteAll f es = es.map (substitute f) := by
  induction es with
  | nil => rw [substituteAll, List.map_nil]
  | cons e es ih => rw [substituteAll, ih, List.map_cons]

lemma substitute_congr {e : Expression} (h : ∀ id ∈ e.mentions, f id = g id) :
    e.substitute f = e.substitute g := by
  induction e using Expression.induction with
  | variableRef id =>
    rw [substitute, substitute]
    exact h id (by simp [mentions])
  | apply uri args ih =>
    rw [substitute, substitute, substituteAll_eq_map, substituteAll_eq_map]
    refine congrArg (apply uri) (List.map_congr_left fun e he => ih e he fun id hid => h id ?_)
    rw [mentions]
    exact mem_mentionsAll.mpr ⟨e, he, hid⟩
  | _ => simp only [substitute]

lemma substitute_variableRef (e : Expression) : e.substitute variableRef = e := by
  induction e using Expression.induction with
  | apply uri args ih =>
    rw [substitute, substituteAll_eq_map, List.map_congr_left ih, List.map_id']
  | _ => rw [substitute]

lemma mem_mentions_substitute {x : String} {e : Expression} (h : x ∈ (e.substitute f).mentions) :
    ∃ id ∈ e.mentions, x ∈ (f id).mentions := by
  induction e using Expression.induction with
  | variableRef id =>
    rw [substitute] at h
    exact ⟨id, by simp [mentions], h⟩
  | apply uri args ih =>
    rw [substitute, substituteAll_eq_map, mentions, mem_mentionsAll] at h
    obtain ⟨e', he', hx⟩ := h
    obtain ⟨e, he, rfl⟩ := List.mem_map.mp he'
    obtain ⟨id, hid, hmem⟩ := ih e he hx
    refine ⟨id, ?_, hmem⟩
    rw [mentions]
    exact mem_mentionsAll.mpr ⟨e, he, hid⟩
  | _ => simp [substitute, mentions] at h

end Substitution

variable {definitions : List VariableDefinition}

/-- More levels change nothing where no definition is left to be replaced. -/
lemma expandedWithin_of_le {n m : ℕ} (hle : n ≤ m) {e : Expression}
    (h : ∀ id ∈ e.mentions, EndsWithin definitions n id) :
    e.expandedWithin definitions m = e.expandedWithin definitions n := by
  induction n generalizing m e with
  | zero =>
    cases m with
    | zero => rfl
    | succ m =>
      rw [expandedWithin, expandedWithin]
      refine (substitute_congr fun id hid => ?_).trans (substitute_variableRef e)
      have hnone : definition? definitions id = none := h id hid
      rw [hnone]
  | succ n ih =>
    obtain ⟨m, rfl⟩ := Nat.exists_eq_add_of_le' hle
    rw [← Nat.add_assoc, expandedWithin, expandedWithin]
    refine substitute_congr fun id hid => ?_
    cases hd : definition? definitions id with
    | none => rfl
    | some d =>
      refine ih (Nat.le_add_left n m) fun x hx => h id hid x ?_
      rwa [Mentions, mentioned_of_definition? hd]

lemma mentions_expandedWithin {n : ℕ} {e : Expression}
    (h : ∀ id ∈ e.mentions, EndsWithin definitions n id) {x : String}
    (hx : x ∈ (e.expandedWithin definitions n).mentions) : definition? definitions x = none := by
  induction n generalizing e with
  | zero => exact h x hx
  | succ n ih =>
    rw [expandedWithin] at hx
    obtain ⟨id, hid, hmem⟩ := mem_mentions_substitute hx
    cases hd : definition? definitions id with
    | none =>
      simp only [hd, mentions, List.mem_singleton] at hmem
      rwa [hmem]
    | some d =>
      simp only [hd] at hmem
      refine ih (fun y hy => h id hid y ?_) hmem
      rwa [Mentions, mentioned_of_definition? hd]

lemma endsWithin_of_not_leadsToCycle {e : Expression} (h : ¬ e.LeadsToCycle definitions) :
    ∀ id ∈ e.mentions, EndsWithin definitions definitions.length id :=
  fun id hid => endsWithin_length fun hcycle => h ⟨id, hid, hcycle⟩

/-- Without cycles no variable is left that has a definition. -/
theorem mentions_expanded {e : Expression} (h : ¬ e.LeadsToCycle definitions) {x : String}
    (hx : x ∈ (e.expanded definitions).mentions) : definition? definitions x = none :=
  mentions_expandedWithin (endsWithin_of_not_leadsToCycle h) hx

lemma expanded_of_closed {e : Expression} (h : e.mentions = []) : e.expanded definitions = e :=
  expandedWithin_of_le (Nat.zero_le _) (by simp [h])

lemma expanded_undefined {id : String} (hd : definition? definitions id = none) :
    (variableRef id).expanded definitions = variableRef id :=
  expandedWithin_of_le (Nat.zero_le _) (by simpa [mentions, EndsWithin] using hd)

lemma expanded_apply (uri : String) (args : List Expression) :
    (apply uri args).expanded definitions = apply uri (args.map (expanded definitions)) := by
  unfold expanded
  cases definitions.length with
  | zero => simp only [expandedWithin, List.map_id']
  | succ n => simp only [expandedWithin, substitute, substituteAll_eq_map]

/-- A variable stands for its definition. -/
lemma expanded_variableRef {id : String} {d : VariableDefinition}
    (hd : definition? definitions id = some d)
    (hcycle : ¬ PolicyDecision.LeadsToCycle definitions id) :
    (variableRef id).expanded definitions = d.expression.expanded definitions := by
  have hends := endsWithin_length hcycle
  obtain ⟨n, hn⟩ : ∃ n, definitions.length = n + 1 :=
    ⟨_, (Nat.succ_pred_eq_of_pos (List.length_pos_of_mem (mem_of_definition? hd))).symm⟩
  unfold expanded
  rw [hn] at hends ⊢
  rw [expandedWithin, substitute]
  simp only [hd]
  refine (expandedWithin_of_le (Nat.le_succ n) fun x hx => hends x ?_).symm
  rwa [Mentions, mentioned_of_definition? hd]

end Expression

open Stateful

namespace Environment

variable (env : Environment)

/-- The value of an expression where no variable is defined. -/
def value (e : Expression) : Except Fault Evaluated := (env.evaluate [] e ∅).1

/-- Without definitions nothing becomes known. -/
lemma evaluate_nil (e : Expression) (known : VariableStates) :
    env.evaluate [] e known = (env.value e, known) := by
  unfold value
  induction e using Expression.induction generalizing known with
  | variableRef id =>
    rw [evaluate_variableRef, evaluate_variableRef]
    rfl
  | apply uri args ih =>
    rw [evaluate_apply, evaluate_apply, mapM_stateless ih, mapM_stateless ih]
    cases env.functions.require uri <;> rfl
  | _ => simp only [evaluate, Expression.evaluateWith_literal, Expression.evaluateWith_designator,
      Expression.evaluateWith_selector, Expression.evaluateWith_function]

lemma value_variableRef (id : String) :
    env.value (.variableRef id) = .error (.evaluation (.undefinedVariable id)) := by
  rw [value, evaluate_variableRef]
  rfl

lemma value_apply (uri : String) (args : List Expression) :
    env.value (.apply uri args) = match env.functions.require uri with
      | .error c => .error (.configuration c)
      | .ok f => (args.mapM env.value).bind (Expression.called env f) := by
  rw [value, evaluate_apply, mapM_stateless fun e _ known => evaluate_nil env e known]
  cases env.functions.require uri <;> rfl

end Environment
end PolicyDecision
