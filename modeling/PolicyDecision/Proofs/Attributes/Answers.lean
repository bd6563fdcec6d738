import PolicyDecision.Proofs.Expression.Basic
import PolicyDecision.Proofs.Variable.Unfolding

/-! The attributes that a policy asks for by name, and environments that give the same answers to its
questions. -/

namespace PolicyDecision

/-- The question that a designator asks. -/
def Designator.query (d : Designator) : AttributeQuery :=
  ⟨d.category, d.attributeId, d.dataType, d.issuer⟩

def AttributeRef.designators : AttributeRef → List Designator
  | designator d => [d]
  | selector _ => []

def Target.designators (t : Target) : List Designator :=
  t.matchList.flatMap (·.attributes.designators)

namespace Expression

mutual

def designators : Expression → List Designator
  | designator d => [d]
  | apply _ args => designatorsAll args
  | _ => []

def designatorsAll : List Expression → List Designator
  | [] => []
  | e :: es => e.designators ++ designatorsAll es

end

lemma mem_designatorsAll {d : Designator} {es : List Expression} :
    d ∈ designatorsAll es ↔ ∃ e ∈ es, d ∈ e.designators := by
  induction es with
  | nil => simp [designatorsAll]
  | cons e es ih => simp [designatorsAll, ih]

end Expression

def Heading.designators (h : Heading) : List Designator :=
  h.target.toList.flatMap Target.designators ++ h.expressions.flatMap Expression.designators

def Rule.designators (r : Rule) : List Designator :=
  r.target.toList.flatMap Target.designators ++ r.expressions.flatMap Expression.designators

def Policy.designators (p : Policy) : List Designator :=
  p.heading.designators ++ p.definitions.flatMap (·.expression.designators) ++
    p.rules.flatMap Rule.designators

namespace PolicyNode

mutual

/-- Those behind references are not among them. -/
def designators : PolicyNode → List Designator
  | policy p => p.designators
  | policySet h children => h.designators ++ designatorsAll children
  | policyRef _ | policySetRef _ => []

def designatorsAll : List PolicyNode → List Designator
  | [] => []
  | c :: cs => c.designators ++ designatorsAll cs

end

lemma mem_designatorsAll {d : Designator} {cs : List PolicyNode} :
    d ∈ designatorsAll cs ↔ ∃ c ∈ cs, d ∈ c.designators := by
  induction cs with
  | nil => simp [designatorsAll]
  | cons c cs ih => simp [designatorsAll, ih]

end PolicyNode

end PolicyDecision

/-! Environments that give the same answers to the questions of a policy. Its targets, its
conditions and its obligations are the same in both. -/

namespace PolicyDecision.Environment

open Stateful

/-- The answers agree as far as functions and paths are asked, and for the attributes of some
designators. -/
structure AnswersAlike (named : Designator → Prop) (env env' : Environment) : Prop where
  functions : env'.functions = env.functions
  call : env'.call = env.call
  designate : ∀ d, named d → env'.designate d = env.designate d
  select : env'.select = env.select

namespace AnswersAlike

variable {named : Designator → Prop} {env env' : Environment} (h : AnswersAlike named env env')
include h

section Target

lemma matchValues_eq (f : FunctionRef) (literal : Value) (error : Option EvaluationError)
    (values : List Value) :
    env'.matchValues f literal error values = env.matchValues f literal error values := by
  induction values generalizing error with
  | nil => rfl
  | cons v vs ih => simp only [matchValues, h.call, ih]

lemma attributes_eq {a : AttributeRef} (ha : ∀ d ∈ a.designators, named d) :
    env'.attributes a = env.attributes a := by
  cases a with
  | designator d => exact h.designate d (ha d List.mem_cons_self)
  | selector s => exact congrFun h.select s

lemma matchOne_eq {m : Match} (hm : ∀ d ∈ m.attributes.designators, named d) :
    env'.matchOne m = env.matchOne m := by
  unfold matchOne
  simp only [h.matchValues_eq, h.attributes_eq hm, h.functions]

lemma matchAll_eq (error : Option EvaluationError) {ms : List Match}
    (hms : ∀ m ∈ ms, ∀ d ∈ m.attributes.designators, named d) :
    env'.matchAll error ms = env.matchAll error ms := by
  induction ms generalizing error with
  | nil => rfl
  | cons m ms ih =>
    rw [List.forall_mem_cons] at hms
    simp only [matchAll, h.matchOne_eq hms.1, ih _ hms.2]

lemma matchAlternatives_eq (error : Option EvaluationError) {as : List AllOf}
    (has : ∀ a ∈ as, ∀ m ∈ a.matchList, ∀ d ∈ m.attributes.designators, named d) :
    env'.matchAlternatives error as = env.matchAlternatives error as := by
  induction as generalizing error with
  | nil => rfl
  | cons a as ih =>
    rw [List.forall_mem_cons] at has
    simp only [matchAlternatives, h.matchAll_eq none has.1, ih _ has.2]

lemma matchAnyOfs_eq (result : MatchResult) {as : List AnyOf}
    (has : ∀ a ∈ as, ∀ b ∈ a.alternatives, ∀ m ∈ b.matchList,
      ∀ d ∈ m.attributes.designators, named d) :
    env'.matchAnyOfs result as = env.matchAnyOfs result as := by
  induction as generalizing result with
  | nil => rfl
  | cons a as ih =>
    rw [List.forall_mem_cons] at has
    simp only [matchAnyOfs, matchAnyOf, h.matchAlternatives_eq none has.1, ih _ has.2]

theorem matchTarget_eq {target : Option Target}
    (htarget : ∀ d ∈ target.toList.flatMap Target.designators, named d) :
    env'.matchTarget target = env.matchTarget target := by
  cases target with
  | none => rfl
  | some t =>
    refine h.matchAnyOfs_eq .isMatch fun a ha b hb m hm d hd => htarget d ?_
    simp only [Option.toList_some, List.flatMap_singleton, Target.designators, Target.matchList,
      List.mem_flatMap]
    exact ⟨m, ⟨a, ha, b, hb, hm⟩, hd⟩

end Target

lemma evaluateWith_eq (valueOf : String → Evaluation Evaluated) {e : Expression}
    (he : ∀ d ∈ e.designators, named d) :
    e.evaluateWith env' valueOf = e.evaluateWith env valueOf := by
  induction e using Expression.induction with
  | literal l => rw [Expression.evaluateWith, Expression.evaluateWith]
  | designator d =>
    rw [Expression.evaluateWith, Expression.evaluateWith,
      h.designate d (he d (by simp [Expression.designators]))]
  | selector s => rw [Expression.evaluateWith, Expression.evaluateWith, h.select]
  | variableRef id => rw [Expression.evaluateWith, Expression.evaluateWith]
  | function uri =>
    rw [Expression.evaluateWith, Expression.evaluateWith, Expression.resolveFunction,
      Expression.resolveFunction, h.functions]
  | apply uri args ih =>
    rw [Expression.designators] at he
    have hargs : args.mapM (Expression.evaluateWith env' valueOf) =
        args.mapM (Expression.evaluateWith env valueOf) := mapM_eq_mapM fun e hmem =>
      ih e hmem fun d hd => he d (Expression.mem_designatorsAll.mpr ⟨e, hmem, hd⟩)
    have hcalled : Expression.called env' = Expression.called env := by
      funext f as
      rw [Expression.called, Expression.called, h.call]
    funext known
    rw [Expression.evaluateWith_apply, Expression.evaluateWith_apply, hargs, h.functions, hcalled]

section Definitions

variable {definitions : List VariableDefinition}
  (hdefinitions : ∀ d ∈ definitions.flatMap (·.expression.designators), named d)
include hdefinitions

lemma variableValue_eq (depth : ℕ) :
    env'.variableValue definitions depth = env.variableValue definitions depth := by
  induction depth with
  | zero => rfl
  | succ depth ih =>
    funext id known
    rw [variableValue_apply, variableValue_apply]
    cases hd : definition? definitions id with
    | none => rfl
    | some d =>
      have heq := h.evaluateWith_eq (env.variableValue definitions depth) (e := d.expression)
        fun a ha => hdefinitions a (List.mem_flatMap.mpr ⟨d, mem_of_definition? hd, ha⟩)
      simp only [ih, heq]

theorem evaluate_eq {e : Expression} (he : ∀ d ∈ e.designators, named d) :
    env'.evaluate definitions e = env.evaluate definitions e := by
  rw [evaluate, evaluate, h.variableValue_eq hdefinitions, h.evaluateWith_eq _ he]

lemma evaluateCondition_eq {e : Expression} (he : ∀ d ∈ e.designators, named d) :
    env'.evaluateCondition definitions e = env.evaluateCondition definitions e := by
  rw [evaluateCondition, evaluateCondition, h.evaluate_eq hdefinitions he]

lemma evaluateAssignment_eq {a : Assignment} (ha : ∀ d ∈ a.expression.designators, named d) :
    env'.evaluateAssignment definitions a = env.evaluateAssignment definitions a := by
  rw [evaluateAssignment, evaluateAssignment, h.evaluate_eq hdefinitions ha]

lemma evaluateObligations_eq (effect : Effect) {os : List ObligationExpression}
    (hos : ∀ d ∈ (os.flatMap ObligationExpression.expressions).flatMap Expression.designators,
      named d) :
    env'.evaluateObligations definitions effect os =
      env.evaluateObligations definitions effect os := by
  refine mapM_eq_mapM fun o ho => ?_
  have hassignments : o.assignments.mapM (env'.evaluateAssignment definitions) =
      o.assignments.mapM (env.evaluateAssignment definitions) := by
    refine mapM_eq_mapM fun a ha => h.evaluateAssignment_eq hdefinitions fun d hd => hos d ?_
    exact List.mem_flatMap.mpr ⟨a.expression, List.mem_flatMap.mpr
      ⟨o, (List.mem_filter.mp ho).1, List.mem_map_of_mem ha⟩, hd⟩
  rw [hassignments]

lemma evaluateDuties_eq (effect : Effect) {obligations advice : List ObligationExpression}
    (hduties : ∀ d ∈ ((obligations ++ advice).flatMap ObligationExpression.expressions).flatMap
      Expression.designators, named d) :
    env'.evaluateDuties definitions effect obligations advice =
      env.evaluateDuties definitions effect obligations advice := by
  rw [List.flatMap_append, List.flatMap_append, List.forall_mem_append] at hduties
  rw [evaluateDuties, evaluateDuties, h.evaluateObligations_eq hdefinitions effect hduties.1,
    h.evaluateObligations_eq hdefinitions effect hduties.2]

end Definitions

end AnswersAlike

lemma AnswersAlike.refl (named : Designator → Prop) (env : Environment) :
    AnswersAlike named env env := ⟨rfl, rfl, fun _ _ => rfl, rfl⟩

/-- Environments that differ only in what they answer to other questions. -/
structure Alike (named : Designator → Prop) (env env' : Environment) : Prop
    extends AnswersAlike named env env' where
  version : env'.version = env.version
  algorithms : env'.algorithms = env.algorithms
  repository : env'.repository = env.repository
  maxReferenceDepth : env'.maxReferenceDepth = env.maxReferenceDepth
  collectPolicies : env'.collectPolicies = env.collectPolicies

lemma Alike.refl (named : Designator → Prop) (env : Environment) : Alike named env env :=
  ⟨.refl named env, rfl, rfl, rfl, rfl, rfl⟩

end PolicyDecision.Environment
