import PolicyDecision.Proofs.Expression.Basic
import PolicyDecision.Proofs.Function.Registry
import PolicyDecision.Proofs.HigherOrder.Quantifier
import PolicyDecision.Proofs.Target.Verdict

/-! A comparison of a target, and the condition that says the same by a function of higher order.
They need the same operands. The comparison goes on after a value that fails, and may still match;
the condition ends there. -/

namespace PolicyDecision

open Stateful Verdict

def AttributeRef.expression : AttributeRef → Expression
  | designator d => .designator d
  | selector s => .selector s

/-- The condition that a comparison holds of one of the values. It is told the URI of the function
that goes through the values. -/
def Match.condition (m : Match) (anyOf : String) : Expression :=
  .apply anyOf [.function m.function, .literal m.literal, m.attributes.expression]

lemma MatchResult.verdict_eq_isMatch_iff {r : MatchResult} :
    r.verdict = .isMatch ↔ r = .isMatch := by
  cases r <;> simp [verdict]

lemma MatchResult.verdict_eq_noMatch_iff {r : MatchResult} :
    r.verdict = .noMatch ↔ r = .noMatch := by
  cases r <;> simp [verdict]

namespace Verdict

variable {first second third : Verdict}

/-- There are no other verdicts. -/
lemma eq_of_nodup (hdistinct : [first, second, third].Nodup) (v : Verdict) :
    v = first ∨ v = second ∨ v = third := by
  cases first <;> cases second <;> cases third <;> cases v <;> simp at hdistinct ⊢

lemma prevailing_eq_third_iff (hdistinct : [first, second, third].Nodup) {parts : List Verdict} :
    prevailing first second third parts = third ↔ ∀ v ∈ parts, v = third := by
  constructor
  · intro h v hv
    rcases eq_of_nodup hdistinct v with rfl | rfl | rfl
    · grind [prevailing]
    · grind [prevailing]
    · rfl
  · intro h
    grind [prevailing]

lemma ofComparison_eq_isMatch_iff {result : Outcome Evaluated} :
    ofComparison result = .isMatch ↔ result = .ok (.boolean true) := by
  unfold ofComparison
  split <;> simp_all [Evaluated.boolean]

lemma ofComparison_eq_noMatch_iff {result : Outcome Evaluated} :
    ofComparison result = .noMatch ↔ result = .ok (.boolean false) := by
  unfold ofComparison
  split <;> simp_all [Evaluated.boolean]

end Verdict

open HigherOrder

/-- What a comparison has to know before it can compare. -/
structure Operands where
  function : FunctionRef
  literal : Value
  bag : Bag

namespace Environment

variable {env : Environment}

def operands (env : Environment) (m : Match) : Except Fault Operands := do
  let function ← (env.functions.require m.function).mapError .configuration
  let literal ← m.literal.resolve
  let bag ← env.attributes m.attributes
  return ⟨function, literal, bag⟩

lemma matchOne_eq_operands (m : Match) : env.matchOne m =
    orIndeterminate (env.operands m) fun o =>
      .ok (env.matchValues o.function o.literal none o.bag.values) := by
  rw [matchOne, operands]
  rcases env.functions.require m.function with e | f
  · rfl
  · rcases m.literal.resolve with (e | e) | literal
    · rfl
    · rfl
    · rcases env.attributes m.attributes with (e | e) | bag <;> rfl

lemma call_anyOf (anyOf : String) (o : Operands) :
    env.call ⟨anyOf, .standard (.higherOrder .anyOf)⟩
        [.function o.function, .value o.literal, .bag o.bag] =
      Evaluated.boolean <$>
        Quantifier.any.along (fun v => test env.call o.function [o.literal, v]) o.bag.values :=
  env.functions.call_higherOrder env.functionContext anyOf .anyOf _

lemma evaluateWith_expression (valueOf : String → Evaluation Evaluated) (a : AttributeRef)
    (known : VariableStates) :
    a.expression.evaluateWith env valueOf known = ((env.attributes a).map .bag, known) := by
  cases a with
  | designator d => exact Expression.evaluateWith_designator env valueOf d known
  | selector s => exact Expression.evaluateWith_selector env valueOf s known

/-- The condition evaluates its arguments to the operands, in the same order. -/
lemma mapM_evaluateWith_condition (valueOf : String → Evaluation Evaluated) (m : Match)
    (known : VariableStates) :
    [.function m.function, .literal m.literal, m.attributes.expression].mapM
        (Expression.evaluateWith env valueOf) known =
      ((env.operands m).map fun o => [.function o.function, .value o.literal, .bag o.bag],
        known) := by
  rw [mapM_cons_apply, Expression.evaluateWith_function, operands]
  rcases env.functions.require m.function with e | f
  · rfl
  · simp only [Except.map, Except.mapError]
    rw [mapM_cons_apply, Expression.evaluateWith_literal]
    rcases m.literal.resolve with e | literal
    · rfl
    · simp only [Except.map]
      rw [mapM_cons_apply, evaluateWith_expression]
      rcases env.attributes m.attributes with e | bag <;> rfl

lemma evaluateCondition_condition {m : Match} {anyOf : String}
    (hanyOf : env.functions.require anyOf = .ok ⟨anyOf, .standard (.higherOrder .anyOf)⟩)
    (definitions : List VariableDefinition) (known : VariableStates) :
    env.evaluateCondition definitions (m.condition anyOf) known =
      ((env.operands m).bind fun o =>
        ((Quantifier.any.along (fun v => test env.call o.function [o.literal, v])
          o.bag.values).mapError (.raisedBy anyOf)).mapError .evaluation, known) := by
  rw [evaluateCondition, bind_apply, evaluate, Match.condition, Expression.evaluateWith_apply,
    hanyOf]
  simp only [mapM_evaluateWith_condition]
  rcases env.operands m with e | o
  · rfl
  · simp only [Except.map, Except.bind, Expression.called, call_anyOf]
    rcases Quantifier.any.along (fun v => test env.call o.function [o.literal, v]) o.bag.values
      with e | b <;> rfl

section Values

variable {f : FunctionRef} {literal : Value} {values : List Value}

lemma matchValues_eq_isMatch_iff : env.matchValues f literal none values = .isMatch ↔
    ∃ v ∈ values, env.call f [.value literal, .value v] = .ok (.boolean true) := by
  rw [← MatchResult.verdict_eq_isMatch_iff, verdict_matchValues,
    prevailing_eq_first_iff (by decide) (by decide), List.mem_cons]
  simp [keptVerdict, MatchResult.verdict, ofComparison_eq_isMatch_iff]

lemma matchValues_eq_noMatch_iff : env.matchValues f literal none values = .noMatch ↔
    ∀ v ∈ values, env.call f [.value literal, .value v] = .ok (.boolean false) := by
  rw [← MatchResult.verdict_eq_noMatch_iff, verdict_matchValues,
    prevailing_eq_third_iff (by decide), List.forall_mem_cons, List.forall_mem_map]
  simp [keptVerdict, MatchResult.verdict, ofComparison_eq_noMatch_iff]

end Values

/-- Where the values have been gone through, the comparison comes to the same. -/
lemma matchValues_of_any_along {f : FunctionRef} {literal : Value} {values : List Value} {b : Bool}
    (h : Quantifier.any.along (fun v => test env.call f [literal, v]) values = .ok b) :
    env.matchValues f literal none values = if b then .isMatch else .noMatch := by
  rw [Quantifier.along_eq_settled] at h
  cases b with
  | true =>
    obtain ⟨v, hv, htest⟩ := Quantifier.exists_of_settled (by simp [Quantifier.ofNone]) h
    exact matchValues_eq_isMatch_iff.mpr ⟨v, hv, test_eq_ok.mp htest⟩
  | false =>
    have hfalse := List.forall_mem_map.mp (Quantifier.settled_eq_ofNone_iff.mp h)
    exact matchValues_eq_noMatch_iff.mpr fun v hv => test_eq_ok.mp (hfalse v hv)

/-- A value that cannot be tested is no value that compares false. -/
lemma matchValues_ne_noMatch {f : FunctionRef} {literal : Value} {values : List Value}
    {e : EvaluationError}
    (h : Quantifier.any.along (fun v => test env.call f [literal, v]) values = .error e) :
    env.matchValues f literal none values ≠ .noMatch := by
  rw [Quantifier.along_eq_settled] at h
  obtain ⟨v, hv, htest⟩ := Quantifier.exists_of_settled (by simp) h
  intro hnone
  have hfalse : test env.call f [literal, v] = .ok false :=
    test_eq_ok.mpr (matchValues_eq_noMatch_iff.mp hnone v hv)
  rw [htest] at hfalse
  cases hfalse

/-- One of the values compares true. -/
def HoldsOfSome (env : Environment) (m : Match) : Prop :=
  ∃ o, env.operands m = .ok o ∧
    ∃ v ∈ o.bag.values, env.call o.function [.value o.literal, .value v] = .ok (.boolean true)

/-- The condition leaves the known variables as they are. If it is true, the comparison matches, and
if it is false, the comparison does not. If it fails, the comparison is indeterminate, unless it
finds a value that compares true. An error of the configuration is one for both. -/
theorem condition_agrees (m : Match) {anyOf : String}
    (hanyOf : env.functions.require anyOf = .ok ⟨anyOf, .standard (.higherOrder .anyOf)⟩)
    (definitions : List VariableDefinition) (known : VariableStates) :
    ∃ c, env.evaluateCondition definitions (m.condition anyOf) known = (c, known) ∧
      (c = .ok true → env.matchOne m = .ok .isMatch) ∧
      (c = .ok false → env.matchOne m = .ok .noMatch) ∧
      (∀ e, c = .error (.evaluation e) →
        env.matchOne m = .ok .isMatch ∧ env.HoldsOfSome m ∨
          ∃ e', env.matchOne m = .ok (.indeterminate e')) ∧
      ∀ e, c = .error (.configuration e) ↔ env.matchOne m = .error e := by
  refine ⟨_, evaluateCondition_condition hanyOf definitions known, ?_⟩
  rw [matchOne_eq_operands, HoldsOfSome]
  rcases env.operands m with (e | e) | o
  · simp [Except.bind, orIndeterminate]
  · simp [Except.bind, orIndeterminate]
  · rcases hc : Quantifier.any.along (fun v => test env.call o.function [o.literal, v])
        o.bag.values with e | b
    · have hne := matchValues_ne_noMatch hc
      simp only [Except.bind, orIndeterminate, hc]
      rcases hr : env.matchValues o.function o.literal none o.bag.values with _ | _ | e'
      · have hsome := matchValues_eq_isMatch_iff.mp hr
        simp [Except.mapError, hsome]
      · exact absurd hr hne
      · simp [Except.mapError]
    · have hr := matchValues_of_any_along hc
      cases b <;> simp [Except.bind, orIndeterminate, hc, hr, Except.mapError]

/-- Equality of texts, with an error for the empty one. -/
def strictEqual : CustomFunction
  | [.value (.string a), .value (.string b)], _ =>
    if b = "" then .error (.reported .processingError "no text") else .ok (.boolean (a == b))
  | args, _ => .error (.argumentCount 2 args.length)

/-- Every attribute has the given values. -/
def holding (texts : List String) : Environment where
  version := .v3_0
  source := { values := fun _ => .ok texts }
  functions := FunctionRegistry.standard.register "strict-equal" strictEqual
  algorithms := .standard
  repository := ⟨fun _ _ => none, fun _ _ => none⟩
  maxReferenceDepth := 1
  collectPolicies := false
  clock := none

def isSurgeon : Match where
  function := "strict-equal"
  literal := ⟨DataType.string.uri, "surgeon"⟩
  attributes := .designator ⟨"subject", "profession", DataType.string.uri, none, false⟩

lemma operands_isSurgeon : (holding ["", "surgeon"]).operands isSurgeon =
    .ok ⟨⟨"strict-equal", .registered 0⟩, .string "surgeon",
      ⟨.string, [.string "", .string "surgeon"]⟩⟩ := by
  have hrequire : (holding ["", "surgeon"]).functions.require isSurgeon.function =
      .ok ⟨"strict-equal", .registered 0⟩ := FunctionRegistry.require_register_self .standard _ _
  rw [operands, hrequire]
  rfl

/-- The first value fails. Nothing more is asked by the condition, but the comparison finds the
second value. -/
theorem condition_agrees_surgeon :
    ∃ c, (holding ["", "surgeon"]).evaluateCondition []
        (isSurgeon.condition (StandardFunction.namespace3 ++ "any-of")) ∅ = (c, ∅) ∧
      (∃ e, c = .error (.evaluation e)) ∧
      (holding ["", "surgeon"]).matchOne isSurgeon = .ok .isMatch ∧
      (holding ["", "surgeon"]).HoldsOfSome isSurgeon := by
  have hanyOf : (holding ["", "surgeon"]).functions.require
      (StandardFunction.namespace3 ++ "any-of") =
        .ok ⟨StandardFunction.namespace3 ++ "any-of", .standard (.higherOrder .anyOf)⟩ :=
    (FunctionRegistry.require_register_of_ne _ (by decide) _).trans FunctionRegistry.require_anyOf
  have hmatch : (holding ["", "surgeon"]).matchOne isSurgeon = .ok .isMatch := by
    rw [matchOne_eq_operands, operands_isSurgeon]
    rfl
  have hfails := evaluateCondition_condition hanyOf (m := isSurgeon) [] ∅
  rw [operands_isSurgeon] at hfails
  obtain ⟨c, hc, -, -, herror, -⟩ := condition_agrees isSurgeon hanyOf [] ∅
  have hce : c = .error (.evaluation (.raisedBy (StandardFunction.namespace3 ++ "any-of")
      (.reported .processingError "no text"))) := congrArg Prod.fst (hc.symm.trans hfails)
  refine ⟨c, hc, ⟨_, hce⟩, hmatch, ?_⟩
  rcases herror _ hce with ⟨-, hsome⟩ | ⟨e', hindeterminate⟩
  · exact hsome
  · rw [hmatch] at hindeterminate
    cases hindeterminate

end Environment

end PolicyDecision
