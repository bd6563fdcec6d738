import PolicyDecision.Proofs.Combining.Vocabulary
import PolicyDecision.Proofs.Legacy.Evaluation
import PolicyDecision.Proofs.Visit.Grounds

/-! Every visit decides in the words of the version, and before version 3.0 only policies and policy
sets have duties. -/

namespace PolicyDecision

/-- The visit has the property, and so do all the visits that it leads to. -/
inductive Visit.Throughout (P : Visit → Prop) : Visit → Prop
  | rule {p : Policy} {r : Rule} {outcome : Except ConfigurationError Decision}
      (here : P (.rule p r outcome)) : Throughout P (.rule p r outcome)
  | node {kind : PolicyKind} {h : Heading} {definitions : List VariableDefinition}
      {outcome : Except ConfigurationError Decision} {inner : List Visit}
      (here : P (.node kind h definitions outcome inner))
      (within : ∀ v ∈ inner, Throughout P v) : Throughout P (.node kind h definitions outcome inner)

/-- If the visit ends in a decision then in one that the version knows. -/
def Visit.SpeaksAs (version : Version) (v : Visit) : Prop :=
  ∀ d, v.outcome = .ok d → d ∈ version.vocabulary

/-- From whatever state, a decision of the evaluation is one that the version knows. -/
def NodeEvaluation.SpeaksAs (version : Version) (x : NodeEvaluation Decision) : Prop :=
  ∀ s d s', x s = (.ok d, s') → d ∈ version.vocabulary

lemma NodeEvaluation.SpeaksAs.outcome {version : Version} {x : NodeEvaluation Decision}
    (hx : x.SpeaksAs version) (s : Progress) : ∀ d, (x s).1 = .ok d → d ∈ version.vocabulary :=
  fun d hd => hx s d (x s).2 (Prod.ext hd rfl)

namespace Environment

open Stateful NodeEvaluation

/-- The algorithm that the heading names, if there is one, is a standard one. -/
def HasStandardAlgorithm (env : Environment) (h : Heading) : Prop :=
  ∀ a, env.algorithms.require h.algorithm = .ok a →
    ∃ standard : StandardAlgorithm, a = standard.algorithm

/-- The policies and the policy sets that the evaluation can come to are combined by standard
algorithms. -/
def StandardThroughout (env : Environment) (start : PolicyNode) : Prop :=
  ∀ node h, Reaches env.repository start node → node.heading? = some h → env.HasStandardAlgorithm h

variable {env : Environment} {s s' : Progress} {d : Decision}

lemma speaksAs_evaluateRule (p : Policy) (r : Rule) :
    (env.evaluateRule p r).SpeaksAs env.version := by
  have hfailed : env.version.indeterminate r.effect ∈ env.version.vocabulary :=
    Version.indeterminate_mem_vocabulary _
  have hna : Decision.notApplicable ∈ env.version.vocabulary :=
    Version.notApplicable_mem_vocabulary
  have hconclude : (env.concludeRule p r).SpeaksAs env.version := by
    intro s d s' hrun
    rcases env.concludeRule_eq_ok hrun with ⟨rfl, -⟩ | ⟨err, known, -, rfl, -⟩
    · exact r.effect.decision_mem_vocabulary
    · exact hfailed
  intro s d s' hrun
  rw [evaluateRule_apply] at hrun
  split at hrun
  · rw [evaluateMatchingRule_apply] at hrun
    split at hrun
    · exact hconclude s d s' hrun
    · split at hrun
      · exact hconclude _ d s' hrun
      · cases hrun
        exact hna
      · cases hrun
        exact hfailed
      · cases hrun
  · cases hrun
    exact hna
  · cases hrun
    exact hfailed
  · cases hrun

section Node

variable {h : Heading} {children : List (Child NodeEvaluation)}
  (hstandard : env.HasStandardAlgorithm h)
  (hchildren : ∀ c ∈ children, c.evaluate.SpeaksAs env.version)

lemma speaksAs_conclude (h : Heading) (definitions : List VariableDefinition)
    (hd : d ∈ env.version.vocabulary) (inner : Findings) :
    (env.conclude h definitions d inner).SpeaksAs env.version := by
  intro s d' s' hrun
  rw [conclude_apply] at hrun
  split at hrun
  · cases hrun
    exact hd
  · split at hrun
    · cases hrun
      exact hd
    · cases hrun
      exact Version.indeterminate_mem_vocabulary _
    · cases hrun

lemma speaksAs_collecting {body : NodeEvaluation Decision} (hbody : body.SpeaksAs env.version)
    (kind : PolicyKind) (h : Heading) (definitions : List VariableDefinition) :
    (env.collecting kind h definitions body).SpeaksAs env.version := by
  intro s d s' hrun
  rw [collecting_apply] at hrun
  split at hrun
  · cases hrun
  · rename_i d₁ s₁ hx
    split at hrun
    · cases hrun
    · rename_i d₂ s₂ hconclude
      cases hrun
      exact speaksAs_conclude h definitions (hbody _ d₁ s₁ hx) _ _ d s₂ hconclude

/-- A target that fails before version 3.0 ends the evaluation, so that nothing is weakened there. -/
lemma speaksAs_whenApplicable {body : Bool → NodeEvaluation Decision}
    (hbody : ∀ targetFailed, (targetFailed = true → env.version.isExtended = true) →
      (body targetFailed).SpeaksAs env.version) (h : Heading) :
    (env.whenApplicable h body).SpeaksAs env.version := by
  intro s d s' hrun
  rw [whenApplicable_apply] at hrun
  split at hrun
  · exact hbody false (fun hf => nomatch hf) s d s' hrun
  · cases hrun
    exact Version.notApplicable_mem_vocabulary
  · split at hrun
    · exact hbody true (fun _ => ‹_›) _ d s' hrun
    · cases hrun
      exact Version.indeterminate_mem_vocabulary none
  · cases hrun

lemma finalDecision_mem_vocabulary {version : Version} {targetFailed : Bool}
    (htarget : targetFailed = true → version.isExtended = true) (applied : Bool)
    (hd : d ∈ version.vocabulary) :
    finalDecision version applied targetFailed d ∈ version.vocabulary := by
  unfold finalDecision
  split
  · exact Version.notApplicable_mem_vocabulary
  · split
    · exact Version.promoted_mem_vocabulary (htarget ‹_›)
    · exact hd

include hstandard hchildren

lemma speaksAs_combine {targetFailed : Bool}
    (htarget : targetFailed = true → env.version.isExtended = true) :
    (env.combine h children targetFailed).SpeaksAs env.version := by
  intro s d s' hrun
  obtain ⟨a, d₁, ha, hx, rfl⟩ := env.combine_eq_ok hrun
  obtain ⟨standard, rfl⟩ := hstandard a ha
  have hplan := standard.keepsVocabulary children.length (fun i => (children.get i).info)
    h.parameters env.version
  refine finalDecision_mem_vocabulary htarget _ (hplan.run (fun i => ?_) hx)
  exact hchildren _ (children.get_mem i)

lemma speaksAs_evaluateSet : (env.evaluateSet h children).SpeaksAs env.version := by
  refine speaksAs_whenApplicable (fun targetFailed htarget => ?_) h
  intro s d s' hrun
  obtain ⟨s₁, hbody, -⟩ := withinSet_eq_ok hrun
  exact speaksAs_collecting (speaksAs_combine hstandard hchildren htarget) _ h [] _ d s₁ hbody

end Node

lemma speaksAs_evaluatePolicy {p : Policy} (hstandard : env.HasStandardAlgorithm p.heading) :
    (env.evaluatePolicy p).SpeaksAs env.version := by
  have hrules : ∀ c ∈ p.rules.map (env.ruleChild p), c.evaluate.SpeaksAs env.version := by
    intro c hc
    obtain ⟨r, -, rfl⟩ := List.mem_map.mp hc
    exact speaksAs_evaluateRule p r
  intro s d s' hrun
  obtain ⟨s₁, hbody, -⟩ := withFreshVariables_eq_ok hrun
  exact speaksAs_whenApplicable (fun targetFailed htarget =>
    speaksAs_collecting (speaksAs_combine hstandard hrules htarget) _ p.heading p.definitions)
    p.heading _ d s₁ hbody

lemma speaksAs_follow {α : Type} {resolved : NodeEvaluation (Outcome α)}
    {x : α → NodeEvaluation Decision}
    (hx : ∀ a s s', resolved s = (.ok (.ok a), s') → (x a).SpeaksAs env.version) :
    (env.follow resolved x).SpeaksAs env.version := by
  intro s d s' hrun
  rcases env.follow_eq_ok hrun with ⟨err, s₁, -, rfl, -⟩ | ⟨a, s₁, s₂, hr, ha, -⟩
  · exact Version.indeterminate_mem_vocabulary none
  · exact hx a s s₁ hr _ d s₂ ha

/-- The evaluation keeps to the decisions of the version, and so do the visits that it is. -/
structure Articulate (env : Environment) (x : NodeEvaluation Decision)
    (visit : Progress → Option Visit) : Prop where
  evaluate : x.SpeaksAs env.version
  visits : ∀ s v, visit s = some v → v.Throughout (Visit.SpeaksAs env.version)

lemma articulate_tracedRule (p : Policy) (r : Rule) :
    env.Articulate (env.tracedRule p r).child.evaluate (env.tracedRule p r).visit := by
  refine ⟨speaksAs_evaluateRule p r, fun s v hv => ?_⟩
  cases hv
  exact .rule ((speaksAs_evaluateRule p r).outcome s)

/-- Every visit from the body of a node is a visit to one of its children. -/
lemma exists_visit_of_visitsWithin {change : Progress → Progress} {h : Heading}
    {children : List Traced} {v : Visit} (hv : v ∈ env.visitsWithin change h children s) :
    ∃ t ∈ children, ∃ start, t.visit start = some v := by
  unfold visitsWithin at hv
  split at hv
  · obtain ⟨event, -, hevent⟩ := List.mem_filterMap.mp hv
    cases event with
    | probed i start answer => cases hevent
    | evaluated i start answer =>
      obtain ⟨t, ht, hvisit⟩ := Option.bind_eq_some_iff.mp hevent
      exact ⟨t, List.mem_of_getElem? ht, start, hvisit⟩
  · cases hv

lemma articulate_policy {p : Policy} (hstandard : env.HasStandardAlgorithm p.heading) :
    env.Articulate (env.evaluatePolicy p) fun s => some (env.policyVisit p s) := by
  refine ⟨speaksAs_evaluatePolicy hstandard, fun s v hv => ?_⟩
  cases hv
  refine .node ((speaksAs_evaluatePolicy hstandard).outcome s) fun w hw => ?_
  obtain ⟨t, ht, start, hvisit⟩ := exists_visit_of_visitsWithin hw
  obtain ⟨r, -, rfl⟩ := List.mem_map.mp ht
  exact (articulate_tracedRule p r).visits start w hvisit

lemma articulate_set {h : Heading} {children : List Traced}
    (hstandard : env.HasStandardAlgorithm h)
    (hchildren : ∀ t ∈ children, env.Articulate t.child.evaluate t.visit) :
    env.Articulate (env.evaluateSet h (children.map Traced.child))
      fun s => some (env.setVisit h children s) := by
  have hset : (env.evaluateSet h (children.map Traced.child)).SpeaksAs env.version := by
    refine speaksAs_evaluateSet hstandard fun c hc => ?_
    obtain ⟨t, ht, rfl⟩ := List.mem_map.mp hc
    exact (hchildren t ht).evaluate
  refine ⟨hset, fun s v hv => ?_⟩
  cases hv
  refine .node (hset.outcome s) fun w hw => ?_
  obtain ⟨t, ht, start, hvisit⟩ := exists_visit_of_visitsWithin hw
  exact (hchildren t ht).visits start w hvisit

lemma articulate_follow {α : Type} {resolved : NodeEvaluation (Outcome α)}
    {x : α → NodeEvaluation Decision} {visit : α → Progress → Option Visit}
    (hx : ∀ a s s', resolved s = (.ok (.ok a), s') → env.Articulate (x a) (visit a)) :
    env.Articulate (env.follow resolved x) (visitBehind resolved visit) := by
  refine ⟨speaksAs_follow fun a s s' hr => (hx a s s' hr).evaluate, fun s v hv => ?_⟩
  unfold visitBehind at hv
  split at hv
  · rename_i a s' hr
    exact (hx a s s' hr).visits _ v hv
  · cases hv

section Tree

variable {start : PolicyNode} (hstart : env.StandardThroughout start)
include hstart

lemma articulate_node {enter : PolicySet → NodeEvaluation Decision}
    {enterVisit : PolicySet → Progress → Option Visit}
    (henter : ∀ set : PolicySet, Reaches env.repository start set.toNode →
      env.Articulate (enter set) (enterVisit set))
    (node : PolicyNode) (hnode : Reaches env.repository start node) :
    env.Articulate (env.evaluateNode enter node) (env.nodeVisit enter enterVisit node) := by
  induction node using PolicyNode.induction with
  | policy p =>
    rw [evaluateNode, nodeVisit]
    exact articulate_policy (hstart _ _ hnode rfl)
  | policySet h children ih =>
    rw [evaluateNode, nodeVisit, ← child_tracedNodes env enter enterVisit, tracedNodes_eq_map]
    refine articulate_set (hstart _ _ hnode rfl) fun t ht => ?_
    obtain ⟨c, hc, rfl⟩ := List.mem_map.mp ht
    exact ih c hc (hnode.child hc)
  | policyRef r =>
    rw [evaluateNode, nodeVisit]
    refine articulate_follow fun p s s' hp => ?_
    exact articulate_policy (hstart _ _ (hnode.policyRef (policy?_of_resolvePolicy hp)) rfl)
  | policySetRef r =>
    rw [evaluateNode, nodeVisit]
    refine articulate_follow fun set s s' hset => ?_
    exact henter set (hnode.policySetRef (policySet?_of_resolvePolicySet hset))

/-- Where no more references may be followed the version's own decision of a failure is made. -/
lemma articulate_enterSet (budget : ℕ) (set : PolicySet)
    (hset : Reaches env.repository start set.toNode) :
    env.Articulate (env.enterSet budget set) (env.enterVisit budget set) := by
  induction budget generalizing set with
  | zero =>
    refine ⟨fun s d s' hrun => ?_, fun s v hv => nomatch hv⟩
    cases hrun
    exact Version.indeterminate_mem_vocabulary none
  | succ budget ih => exact articulate_node hstart ih set.toNode hset

end Tree

/-- The visits to policies and policy sets. -/
def nodesOf (visits : List Visit) : List Visit := visits.filter (·.identifier?.isSome)

/-- Before version 3.0 the duties of rules add nothing. -/
lemma duties_nodesOf {e : Effect} (hversion : env.version.isExtended = false) {visits : List Visit}
    {duties : List Duties} (h : visits.mapM (env.visitDuties e) = .ok duties) :
    ∃ duties', (nodesOf visits).mapM (env.visitDuties e) = .ok duties' ∧
      duties'.flatMap (·.obligations) = duties.flatMap (·.obligations) ∧
      duties'.flatMap (·.advice) = duties.flatMap (·.advice) := by
  induction visits generalizing duties with
  | nil => exact ⟨duties, h, rfl, rfl⟩
  | cons v visits ih =>
    rw [List.mapM_cons] at h
    obtain ⟨d, hd, h⟩ := except_bind_eq_ok.mp h
    obtain ⟨ds, hds, h⟩ := except_bind_eq_ok.mp h
    cases h
    obtain ⟨ds', hds', hobligations, hadvice⟩ := ih hds
    cases v with
    | rule p r outcome =>
      rw [visitDuties, if_neg (by simp [hversion])] at hd
      cases hd
      exact ⟨ds', hds', hobligations, hadvice⟩
    | node kind heading definitions outcome inner =>
      refine ⟨d :: ds', ?_, ?_, ?_⟩
      · change (_ :: nodesOf visits).mapM _ = _
        rw [List.mapM_cons, hd, hds']
        rfl
      · rw [List.flatMap_cons, List.flatMap_cons, hobligations]
      · rw [List.flatMap_cons, List.flatMap_cons, hadvice]

/-- With standard algorithms, every rule, policy and policy set that is visited decides in the words
of the version, and so does the result: before version 3.0 it is never said which effects a failed
evaluation could have had, and since then it always is. Before version 3.0 the obligations and the
advice in a result are those of policies and policy sets alone. -/
theorem rootVisit_speaksAs {root : Root} (hroot : env.StandardThroughout root.toNode) :
    (env.rootVisit root).Throughout (Visit.SpeaksAs env.version) ∧
    ∀ result, env.evaluateRoot root = .ok result →
      result.decision ∈ env.version.vocabulary ∧
      (env.version.isExtended = false →
        (∀ e, result.decision = e.decision → ∃ duties,
          (nodesOf ((env.rootVisit root).agreeing e)).mapM (env.visitDuties e) = .ok duties ∧
            result.obligations = duties.flatMap (·.obligations) ∧
            result.advice = duties.flatMap (·.advice)) ∧
        (result.decision.effect? = none → result.obligations = [] ∧ result.advice = [])) := by
  have harticulate := articulate_node hroot (articulate_enterSet hroot env.maxReferenceDepth)
    root.toNode .start
  refine ⟨harticulate.visits {} _ (env.nodeVisit_root root), fun result hresult => ?_⟩
  rw [evaluateRoot_eq] at hresult
  rcases hrun : env.evaluateNode (env.enterSet env.maxReferenceDepth) root.toNode {} with
    ⟨c | d, s⟩
  · rw [hrun] at hresult
    cases hresult
  · rw [hrun] at hresult
    cases hresult
    refine ⟨harticulate.evaluate {} d s hrun, fun hversion => ?_⟩
    obtain ⟨definitions, inner, hvisit, hconcluded⟩ := concluded_root hrun
    refine ⟨fun e he => ?_, hconcluded.no_duties⟩
    obtain ⟨duties, hduties, hobligations, hadvice⟩ :=
      (hconcluded.of_effect e (Decision.effect?_eq_some.mpr he)).duties
    obtain ⟨duties', hnodes, hobligations', hadvice'⟩ := duties_nodesOf hversion hduties
    rw [hvisit]
    exact ⟨duties', hnodes, hobligations.trans hobligations'.symm, hadvice.trans hadvice'.symm⟩

/-- A policy with an obligation of its own and one of its rule. -/
def announcing : Policy where
  heading := {
    id := "announcing"
    algorithm := failing.heading.algorithm
    obligations := [{ id := "log", effect := .permit }] }
  rules := [{ id := "open", effect := .permit, obligations := [{ id := "tell", effect := .permit }] }]

theorem rootVisit_announcing : ∃ result,
    older.StandardThroughout (Root.policy announcing).toNode ∧
      (older.rootVisit (.policy announcing)).Throughout (Visit.SpeaksAs .v2_0) ∧
      older.evaluateRoot (.policy announcing) = .ok result ∧
      result.decision = Effect.permit.decision ∧
      ∃ duties, (nodesOf ((older.rootVisit (.policy announcing)).agreeing .permit)).mapM
          (older.visitDuties .permit) = .ok duties ∧
        result.obligations = duties.flatMap (·.obligations) ∧
        result.obligations.map (·.id) = ["log"] := by
  have hroot : older.StandardThroughout (Root.policy announcing).toNode := by
    intro node h _ _ a ha
    exact ⟨.denyOverrides, AlgorithmRegistry.eq_of_require_register ha⟩
  have hvalue : (older.evaluateRoot (.policy announcing)).map
      (fun r => (r.decision, r.obligations.map (·.id))) = .ok (.permit, ["log"]) := by
    decide +kernel
  obtain ⟨hvisits, hresults⟩ := rootVisit_speaksAs hroot
  cases hresult : older.evaluateRoot (.policy announcing) with
  | error c =>
    rw [hresult] at hvalue
    cases hvalue
  | ok result =>
    rw [hresult] at hvalue
    simp only [Except.map, Except.ok.injEq, Prod.mk.injEq] at hvalue
    obtain ⟨hdecision, hobligations⟩ := hvalue
    obtain ⟨-, hlegacy⟩ := hresults result hresult
    obtain ⟨duties, hduties, hlog, -⟩ := (hlegacy rfl).1 .permit hdecision
    exact ⟨result, hroot, hvisits, rfl, hdecision, duties, hduties, hlog, hobligations⟩

end Environment
end PolicyDecision
