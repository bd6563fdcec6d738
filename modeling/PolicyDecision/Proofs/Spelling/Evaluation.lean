import PolicyDecision.Proofs.Attributes.Noninterference
import PolicyDecision.Proofs.Spelling.Tree

/-! The URIs of a type are interchangeable: policies and requests that differ in nothing but the
spelling of types have the same results. -/

namespace PolicyDecision

open Stateful NodeEvaluation

namespace EvaluationResult

/-- The result without what may repeat how a type is spelled, the message and the attributes of the
request. -/
def unspelled (r : EvaluationResult) : EvaluationResult :=
  { r with status := ⟨r.status.code, none⟩, attributes := [] }

lemma combine_unspelled (results : List EvaluationResult) :
    (combine (results.map unspelled)).unspelled = (combine results).unspelled := by
  cases results with
  | nil => rfl
  | cons first rest =>
    have hagree : ((first :: rest).map unspelled).all (fun r =>
        r.decision == first.decision && r.isPlain) =
          (first :: rest).all fun r => r.decision == first.decision && r.isPlain := List.all_map
    have hpolicies : ((first :: rest).map unspelled).flatMap (·.applicablePolicies) =
        (first :: rest).flatMap (·.applicablePolicies) := List.flatMap_map _ _ _
    rw [List.map_cons] at hagree hpolicies ⊢
    unfold combine
    simp only [hagree, hpolicies, show first.unspelled.decision = first.decision from rfl]
    split
    · split <;> rfl
    · rfl

end EvaluationResult

open EvaluationResult (unspelled)

namespace Environment

lemma unspelled_result_canonical (d : Decision) (s : Progress) :
    (result d s.canonical).unspelled = (result d s).unspelled := by
  have hstatus : ((s.firstError.map EvaluationError.canonical).getD .undecided).status =
      (s.firstError.getD .undecided).status := by
    cases s.firstError with
    | none => rfl
    | some e => exact e.status_canonical
  unfold result
  split
  · simp only [unspelled, Progress.canonical, Status.ofError, hstatus]
  · rfl

variable {env env' : Environment} (h : env.Spells env')
include h

theorem Spells.evaluateRoot_eq (halgorithms : env.algorithms = .standard) (root : Root) :
    (env'.evaluateRoot root.canonical).map unspelled = (env.evaluateRoot root).map unspelled := by
  have hnode := h.evaluateNode_eq halgorithms
    (h.enterSet_eq halgorithms env.maxReferenceDepth) root.toNode {}
  have hevaluate : env'.evaluateRoot root.canonical =
      (rewritten id id (env.evaluateNode (env.enterSet env.maxReferenceDepth) root.toNode {}).1).map
        fun d => result d
          (env.evaluateNode (env.enterSet env.maxReferenceDepth) root.toNode {}).2.canonical := by
    rw [Environment.evaluateRoot_eq, root.toNode_canonical, h.maxReferenceDepth]
    exact congrArg (fun run => run.1.map fun d => result d run.2) hnode
  rw [hevaluate, Environment.evaluateRoot_eq]
  rcases env.evaluateNode (env.enterSet env.maxReferenceDepth) root.toNode {} with ⟨e | d, s⟩
  · rfl
  · exact congrArg Except.ok (unspelled_result_canonical d s)

end Environment

namespace DecisionPoint

variable {p : DecisionPoint} (hfunctions : p.libraries.functions = .standard)
  (hsource : p.source = none) (now : Calendar.DateTime)

section Canonical

include hfunctions hsource

lemma spells_canonical (r : Request) :
    (p.environment now r).Spells (p.canonical.environment now r.canonical) := by
  have hsource' : p.canonical.source = none := hsource
  have hpathless : (p.environment now r).source.Pathless := by
    rw [environment, hsource]
    exact r.pathless_source
  have hpathless' : (p.canonical.environment now r.canonical).source.Pathless := by
    rw [environment, hsource']
    exact r.canonical.pathless_source
  have halike : Environment.AnswersAlike (fun _ => False) (p.environment now r)
      (p.canonical.environment now r.canonical) :=
    Environment.answersAlike_of_pathless hfunctions rfl hpathless hpathless' rfl
      fun _ hd => hd.elim
  refine ⟨rfl, rfl, rfl, rfl, rfl, rfl, rfl, halike.call, fun q => ?_, hpathless, hpathless'⟩
  refine ⟨r.valuesFor q, ?_, ?_⟩
  · rw [environment, hsource]
    rfl
  · rw [environment, hsource', ← r.valuesFor_canonical q]
    rfl

variable (halgorithms : p.libraries.algorithms = .standard)
include halgorithms

lemma evaluatePart_canonical (part : Outcome Request) :
    (p.canonical.evaluatePart now (part.map .canonical)).map unspelled =
      (p.evaluatePart now part).map unspelled := by
  have hattributes : ∀ (x : Except ConfigurationError EvaluationResult) (attributes : List Block),
      ((do return { ← x with attributes }) : Except ConfigurationError EvaluationResult).map
        unspelled = x.map unspelled := by
    intro x attributes
    cases x <;> rfl
  cases part with
  | error e => rfl
  | ok r =>
    exact (hattributes _ _).trans (((spells_canonical hfunctions hsource now r).evaluateRoot_eq
      halgorithms p.root).trans (hattributes _ _).symm)

/-- The results of the individual requests, as far as they have nothing to do with spelling. -/
lemma individuals_canonical (r : Request) :
    (r.canonical.individuals.mapM (p.canonical.evaluatePart now)).map (List.map unspelled) =
      (r.individuals.mapM (p.evaluatePart now)).map (List.map unspelled) := by
  rw [r.individuals_canonical, List.mapM_map, ← except_mapM_map (fun _ => rfl),
    ← except_mapM_map (fun _ => rfl)]
  congr 1
  funext part
  exact evaluatePart_canonical hfunctions hsource now halgorithms part

end Canonical

/-- The answer is made of the results of the individual requests. -/
lemma evaluate_unspelled (p : DecisionPoint) (r : Request) :
    (p.evaluate now r).map (List.map unspelled) =
      ((r.individuals.mapM (p.evaluatePart now)).map (List.map unspelled)).map fun results =>
        if r.combinedDecision && decide (1 < results.length) then
          [(EvaluationResult.combine results).unspelled]
        else results := by
  unfold evaluate
  cases r.individuals.mapM (p.evaluatePart now) with
  | error c => rfl
  | ok results =>
    refine congrArg Except.ok ?_
    simp only [apply_ite (List.map unspelled), List.length_map,
      EvaluationResult.combine_unspelled, List.map_singleton]

/-- The URIs of one type are interchangeable. A decision point without a fallback source and with
the standard functions and algorithms gives the same results if types are named by other URIs of
theirs, in the policies or in the request: each individual result has the same decision and status
code and the same obligations, advice and applicable policies, and so has the combined one. -/
theorem evaluate_respelled {p' : DecisionPoint} (hfunctions : p.libraries.functions = .standard)
    (halgorithms : p.libraries.algorithms = .standard) (hsource : p.source = none)
    (hp : p'.canonical = p.canonical) (now : Calendar.DateTime) {r r' : Request}
    (hr : r'.canonical = r.canonical) :
    (r'.individuals.mapM (p'.evaluatePart now)).map (List.map unspelled) =
        (r.individuals.mapM (p.evaluatePart now)).map (List.map unspelled) ∧
      (p'.evaluate now r').map (List.map unspelled) =
        (p.evaluate now r).map (List.map unspelled) := by
  have hlibraries : p'.libraries = p.libraries := congrArg (·.libraries) hp
  have hsource' : p'.source = none := (congrArg (·.source) hp).trans hsource
  have hcombined : r'.combinedDecision = r.combinedDecision := congrArg (·.combinedDecision) hr
  have hindividuals : (r'.individuals.mapM (p'.evaluatePart now)).map (List.map unspelled) =
      (r.individuals.mapM (p.evaluatePart now)).map (List.map unspelled) := by
    rw [← individuals_canonical hfunctions hsource now halgorithms r, ← hp, ← hr]
    exact (individuals_canonical (hlibraries ▸ hfunctions) hsource' now
      (hlibraries ▸ halgorithms) r').symm
  refine ⟨hindividuals, ?_⟩
  rw [evaluate_unspelled, evaluate_unspelled, hindividuals, hcombined]

/-- How version 3.0 names durations of days and times. -/
def span : String := DataType.dayTimeDuration.uri

def olderSpan : String := DataType.queryNamespace ++ DataType.dayTimeDuration.shortName

/-- A request with how long something has lasted. -/
def elapsed (typeUri : String) : Request :=
  Request.addAttribute { version := .v3_0 } role.category
    (.ofLiteral "elapsed" ⟨typeUri, "PT36H"⟩)

/-- Permits, and wants it to be said how long something has lasted. -/
def telling (typeUri : String) : Policy where
  heading := {
    id := "telling"
    algorithm := StandardAlgorithm.ruleUri "1.0" "first-applicable"
    obligations := [{
      id := "tell"
      effect := .permit
      assignments := [
        { attributeId := "limit", expression := .literal ⟨typeUri, "P2D"⟩ },
        { attributeId := "elapsed",
          expression := .designator {
            category := role.category
            attributeId := "elapsed"
            dataType := typeUri
            mustBePresent := true } }] }] }
  rules := [{ id := "open", effect := .permit }]

def clerk (typeUri : String) : DecisionPoint where
  root := .policy (telling typeUri)
  repository := ⟨fun _ _ => none, fun _ _ => none⟩
  libraries := ⟨.standard, .standard⟩
  source := none
  configuration := {}

lemma evaluatePolicy_telling :
    (((clerk span).environment noon (elapsed olderSpan)).evaluatePolicy (telling span) {}).1 =
      .ok .permit := by
  have halgorithm : ((clerk span).environment noon (elapsed olderSpan)).algorithms.require
      (telling span).heading.algorithm = .ok StandardAlgorithm.firstApplicable.algorithm :=
    AlgorithmRegistry.require_ruleUri (by decide)
  rw [Environment.evaluatePolicy_of_untargeted _ rfl, Environment.collecting_apply,
    Environment.combine_apply, halgorithm]
  decide +kernel

lemma exists_evaluate_clerk : ∃ result,
    (clerk span).evaluate noon (elapsed olderSpan) = .ok [result] ∧ result.decision = .permit := by
  have hroot : (clerk span).root.toNode = .policy (telling span) := rfl
  have hresult : ∃ result,
      ((clerk span).environment noon (elapsed olderSpan)).evaluateRoot (clerk span).root =
        .ok result ∧ result.decision = .permit := by
    rw [Environment.evaluateRoot_eq, hroot, Environment.evaluateNode, evaluatePolicy_telling]
    exact ⟨_, rfl, rfl⟩
  obtain ⟨result, hresult, hdecision⟩ := hresult
  refine ⟨{ result with attributes := (elapsed olderSpan).returned }, ?_, hdecision⟩
  rw [evaluate_of_individuals noon rfl, evaluateIndividual, hresult]
  rfl

/-- The older URI in the request and that of version 3.0 in the policy, or the other way round. -/
theorem evaluate_clerk : olderSpan ≠ span ∧
    (clerk olderSpan).canonical = (clerk span).canonical ∧
    (elapsed span).canonical = (elapsed olderSpan).canonical ∧
    (∃ result, (clerk span).evaluate noon (elapsed olderSpan) = .ok [result] ∧
      result.decision = .permit) ∧
    ((clerk olderSpan).evaluate noon (elapsed span)).map (List.map unspelled) =
      ((clerk span).evaluate noon (elapsed olderSpan)).map (List.map unspelled) := by
  have hspan : DataType.canonicalUri olderSpan = DataType.canonicalUri span :=
    DataType.canonicalUri_eq_iff.mpr (Or.inr ⟨.dayTimeDuration, by decide, by decide⟩)
  have hclerk : (clerk olderSpan).canonical = (clerk span).canonical := congrArg clerk hspan
  have helapsed : (elapsed span).canonical = (elapsed olderSpan).canonical :=
    congrArg elapsed hspan.symm
  refine ⟨by decide, hclerk, helapsed, exists_evaluate_clerk, ?_⟩
  exact (evaluate_respelled (p := clerk span) rfl rfl rfl hclerk noon helapsed).2

end DecisionPoint

end PolicyDecision
