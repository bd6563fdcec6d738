import PolicyDecision.Proofs.Correspondence.Tree
import PolicyDecision.Proofs.Duality.Opposite
import PolicyDecision.Proofs.Duality.Algorithm

/-! Duality of the two effects: with the effects exchanged everywhere, a request has the same
results with the effects exchanged. -/

namespace PolicyDecision

open Stateful NodeEvaluation Environment Correspondence

/-- Steps that yield what other steps yield, mapped, do so along a list. -/
lemma mapM_map_apply {ε σ α α' β β' : Type} {f : α → ExceptT ε (StateM σ) β}
    {f' : α' → ExceptT ε (StateM σ) β'} {g : α → α'} {h : β → β'}
    (hstep : ∀ a s, f' (g a) s = ((f a s).1.map h, (f a s).2)) (l : List α) (s : σ) :
    (l.map g).mapM f' s = ((l.mapM f s).1.map (List.map h), (l.mapM f s).2) := by
  induction l generalizing s with
  | nil => rfl
  | cons a l ih =>
    rw [List.map_cons, mapM_cons_apply, mapM_cons_apply, hstep]
    rcases f a s with ⟨e | b, s'⟩
    · rfl
    · simp only [Except.map, ih]
      rcases l.mapM f s' with ⟨e | bs, s''⟩ <;> rfl

namespace Environment

variable (env : Environment)

/-- The obligations for the opposite effect are the same, but for the effect. -/
lemma evaluateObligations_opposite (definitions : List VariableDefinition) (e : Effect)
    (expressions : List ObligationExpression) (known : VariableStates) :
    env.opposite.evaluateObligations definitions e.opposite (expressions.map .opposite) known =
      ((env.evaluateObligations definitions e expressions known).1.map
          (List.map (·.turned Effect.opposite)),
        (env.evaluateObligations definitions e expressions known).2) := by
  have hfilter : (expressions.map ObligationExpression.opposite).filter
      (·.effect == e.opposite) =
        (expressions.filter (·.effect == e)).map ObligationExpression.opposite := by
    rw [List.filter_map]
    congr 2
    funext o
    exact Bool.eq_iff_iff.mpr
      (by simp [ObligationExpression.opposite, Effect.opposite_injective.eq_iff])
  unfold evaluateObligations
  rw [hfilter]
  refine mapM_map_apply (fun o s => ?_) _ known
  have hassignments : o.opposite.assignments = o.assignments := rfl
  rw [bind_apply, bind_apply, opposite, evaluateAssignment_withRepository, hassignments]
  rcases o.assignments.mapM (env.evaluateAssignment definitions) s with ⟨_ | _, _⟩ <;> rfl

lemma evaluateDuties_opposite (definitions : List VariableDefinition) (e : Effect)
    (obligations advice : List ObligationExpression) (known : VariableStates) :
    env.opposite.evaluateDuties definitions e.opposite (obligations.map .opposite)
        (advice.map .opposite) known =
      ((env.evaluateDuties definitions e obligations advice known).1.map
          (Duties.turned Effect.opposite),
        (env.evaluateDuties definitions e obligations advice known).2) := by
  unfold evaluateDuties
  rw [bind_apply, bind_apply, evaluateObligations_opposite]
  rcases env.evaluateObligations definitions e obligations known with ⟨_ | os, known'⟩
  · rfl
  · simp only [Except.map]
    rw [bind_apply, bind_apply, evaluateObligations_opposite]
    rcases env.evaluateObligations definitions e advice known' with ⟨_ | _, _⟩ <;> rfl

section Alike

variable {env} (hstandard : env.algorithms = .standard)
include hstandard

lemma headingAlike_opposite (definitions : List VariableDefinition) (h : Heading) :
    HeadingAlike Effect.opposite (fun i j => j.hint = i.hint.map Effect.opposite) env env.opposite
      definitions definitions h h.opposite where
  version := rfl
  collectPolicies := rfl
  identifier := ⟨rfl, rfl⟩
  target := congrFun (env.matchTarget_withRepository _) h.target
  algorithm := by
    change AlgorithmAlike _ _ _ _ _ (env.algorithms.require h.algorithm)
      (env.algorithms.require (StandardAlgorithm.oppositeUri h.algorithm))
    rw [hstandard]
    exact algorithmAlike_opposite _ _ _ _
  duties e known := env.evaluateDuties_opposite definitions e h.obligations h.advice known

omit hstandard in
lemma ruleAlike_opposite (p : Policy) (r : Rule) :
    RuleAlike Effect.opposite env env.opposite p p.opposite r r.opposite where
  effect := rfl
  target := congrFun (env.matchTarget_withRepository _) (targetOf p r)
  condition := by
    change Option.Rel _ r.condition r.condition
    cases r.condition with
    | none => exact .none
    | some e =>
      exact .some fun known =>
        congrFun (congrFun (env.evaluateCondition_withRepository _ p.definitions) e) known
  duties known := env.evaluateDuties_opposite p.definitions r.effect r.obligations r.advice known

lemma nodeAlike_opposite (node : PolicyNode) :
    NodeAlike Effect.opposite (fun i j => j.hint = i.hint.map Effect.opposite) env env.opposite
      node node.opposite := by
  induction node using PolicyNode.induction with
  | policy p =>
    rw [PolicyNode.opposite]
    refine .policy (headingAlike_opposite hstandard p.definitions p.heading) ?_
    exact List.forall₂_map_right_iff.mpr
      (List.forall₂_same.mpr fun r _ => ⟨ruleAlike_opposite p r, rfl⟩)
  | policySet h children ih =>
    rw [PolicyNode.opposite, PolicyNode.oppositeAll_eq_map]
    refine .policySet (headingAlike_opposite hstandard [] h) rfl ?_ ?_
    · exact List.forall₂_map_right_iff.mpr (List.forall₂_same.mpr fun _ _ => rfl)
    · exact List.forall₂_map_right_iff.mpr (List.forall₂_same.mpr ih)
  | policyRef r =>
    rw [PolicyNode.opposite]
    exact .policyRef r
  | policySetRef r =>
    rw [PolicyNode.opposite]
    exact .policySetRef r

lemma repositoryAlike_opposite :
    RepositoryAlike Effect.opposite (fun i j => j.hint = i.hint.map Effect.opposite) env
      env.opposite where
  version := rfl
  maxReferenceDepth := rfl
  policy name constraints := by
    change Option.Rel _ _ ((env.repository.policy? name constraints).map Policy.opposite)
    cases env.repository.policy? name constraints with
    | none => exact .none
    | some p =>
      have hp := nodeAlike_opposite hstandard (.policy p)
      rw [PolicyNode.opposite] at hp
      exact .some hp
  policySet name constraints := by
    change Option.Rel _ _ ((env.repository.policySet? name constraints).map PolicySet.opposite)
    cases env.repository.policySet? name constraints with
    | none => exact .none
    | some s =>
      have hs := nodeAlike_opposite hstandard s.toNode
      rw [← PolicySet.toNode_opposite] at hs
      exact .some hs

end Alike

/-- A result with turned findings is the opposite of the result. -/
lemma result_turned (d : Decision) (added : Yield) :
    result (d.turned Effect.opposite)
        (Progress.extended {} (added.turned Effect.opposite)) =
      (result d (Progress.extended {} added)).opposite := by
  have hstatus := Decision.isIndeterminate_turned Effect.opposite d
  rw [Decision.turned_opposite] at hstatus
  simp [result, Progress.extended, Yield.turned, Findings.turned, Findings.append,
    EvaluationResult.opposite, Decision.turned_opposite, Function.comp_def, hstatus]

lemma toNode_opposite (root : Root) : root.opposite.toNode = root.toNode.opposite := by
  cases root with
  | policy p =>
    change PolicyNode.policy p.opposite = PolicyNode.opposite (.policy p)
    rw [PolicyNode.opposite]
  | policySet s => exact s.toNode_opposite

/-- With the effects exchanged everywhere a root has the opposite result. -/
theorem evaluateRoot_opposite {env : Environment} (hstandard : env.algorithms = .standard)
    (root : Root) : env.opposite.evaluateRoot root.opposite =
      (env.evaluateRoot root).map EvaluationResult.opposite := by
  have hrepository := repositoryAlike_opposite hstandard
  have hparallels := hrepository.parallels_evaluateNode Effect.opposite_injective
    (hrepository.parallels_enterSet Effect.opposite_injective env.maxReferenceDepth) root.toNode
    (nodeAlike_opposite hstandard root.toNode)
  obtain ⟨r, added, -, hleft, hright⟩ := hparallels {} {} rfl
  have hdepth : env.opposite.maxReferenceDepth = env.maxReferenceDepth := rfl
  rw [evaluateRoot_eq, evaluateRoot_eq, toNode_opposite, hdepth, hleft, hright]
  cases r with
  | error c => rfl
  | ok d => exact congrArg Except.ok (result_turned d added)

end Environment

namespace EvaluationResult

lemma isPlain_opposite (r : EvaluationResult) : r.opposite.isPlain = r.isPlain := by
  simp [isPlain, opposite]

lemma combine_opposite (results : List EvaluationResult) :
    combine (results.map opposite) = (combine results).opposite := by
  cases results with
  | nil => rfl
  | cons first rest =>
    have hagree : ((first :: rest).map opposite).all (fun r =>
        r.decision == first.opposite.decision && r.isPlain) =
          (first :: rest).all fun r => r.decision == first.decision && r.isPlain := by
      rw [List.all_map]
      congr 1
      funext r
      rw [Function.comp_apply, isPlain_opposite]
      congr 1
      cases hr : r.decision <;> cases hfirst : first.decision <;>
        simp [opposite, hr, hfirst, Decision.opposite]
    rw [List.map_cons] at hagree ⊢
    simp only [combine, hagree]
    split
    · have hpolicies : ((first :: rest).map opposite).flatMap (·.applicablePolicies) =
          (first :: rest).flatMap (·.applicablePolicies) := by
        rw [List.flatMap_map]
        rfl
      rw [List.map_cons] at hpolicies
      rw [hpolicies]
      cases hfirst : first.decision <;> simp [opposite, hfirst, Decision.opposite,
        Decision.isIndeterminate]
    · rfl

end EvaluationResult

namespace DecisionPoint

variable {p : DecisionPoint}

lemma evaluatePart_opposite (hstandard : p.libraries.algorithms = .standard)
    (now : Calendar.DateTime) (part : Outcome Request) : p.opposite.evaluatePart now part =
      (p.evaluatePart now part).map EvaluationResult.opposite := by
  cases part with
  | error e => rfl
  | ok r =>
    have hroot : (p.environment now r).opposite.evaluateRoot p.root.opposite =
        ((p.environment now r).evaluateRoot p.root).map EvaluationResult.opposite :=
      Environment.evaluateRoot_opposite hstandard p.root
    change (do
      let result ← (p.environment now r).opposite.evaluateRoot p.root.opposite
      return { result with attributes := r.returned }) = (p.evaluateIndividual now r).map _
    rw [hroot, evaluateIndividual]
    cases (p.environment now r).evaluateRoot p.root <;> rfl

/-- With permit and deny exchanged everywhere, in the effects of rules, obligations and advice and
in the combining algorithms, every request has the same results with permit and deny exchanged. -/
theorem evaluate_opposite (hstandard : p.libraries.algorithms = .standard)
    (now : Calendar.DateTime) (r : Request) : p.opposite.evaluate now r =
      (p.evaluate now r).map (List.map EvaluationResult.opposite) := by
  unfold evaluate
  rw [except_mapM_map (p.evaluatePart_opposite hstandard now) r.individuals]
  cases r.individuals.mapM (p.evaluatePart now) with
  | error c => rfl
  | ok results =>
    simp only [Except.map, bind, Except.bind, List.length_map,
      EvaluationResult.combine_opposite]
    split <;> rfl

/-- A policy whose only rule denies. -/
def closing : DecisionPoint where
  root := .policy {
    heading := {
      id := "orders"
      algorithm := StandardAlgorithm.ruleUri "3.0" "permit-unless-deny"
      obligations := [{ id := "log", effect := .deny }, { id := "ship", effect := .permit }] }
    rules := [{ id := "closed", effect := .deny }] }
  repository := ⟨fun _ _ => none, fun _ _ => none⟩
  libraries := ⟨.empty, .standard⟩
  source := none
  configuration := {}

def midnight : Calendar.DateTime := ⟨⟨2000, 1, 1, none⟩, ⟨0, 0, 0, 0, none⟩⟩

theorem evaluate_closing : closing.libraries.algorithms = .standard ∧
    closing.opposite.root.heading.algorithm =
      StandardAlgorithm.ruleUri "3.0" "deny-unless-permit" ∧
    closing.opposite.evaluate midnight closing.request =
      (closing.evaluate midnight closing.request).map (List.map EvaluationResult.opposite) := by
  have hstandard : closing.libraries.algorithms = .standard := rfl
  exact ⟨hstandard, by decide +kernel, evaluate_opposite hstandard midnight closing.request⟩

end DecisionPoint

end PolicyDecision
