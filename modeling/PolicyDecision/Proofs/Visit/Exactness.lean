import PolicyDecision.Proofs.Visit.Ledger

/-! The obligations, the advice and the policies in a result are exactly those of the visits that
agree with the decision. -/

namespace PolicyDecision.Environment

open Stateful NodeEvaluation

variable {env : Environment}

lemma accounted_set {h : Heading} {children : List Traced}
    (hchildren : ∀ t ∈ children, env.Accounted [] t) {s s' : Progress} {d : Decision}
    (hs : env.Settled [] s.known)
    (hrun : env.evaluateSet h (children.map Traced.child) s = (.ok d, s')) :
    env.Settled [] s'.known ∧ ∃ added, s'.findings = s.findings.append added ∧
      env.Concluded .policySet h []
        (env.visitsWithin (fun s => { s with enclosing := h.id :: s.enclosing }) h children s)
        d added := by
  refine @accounted_node env [] children .policySet h
    (fun s => { s with enclosing := h.id :: s.enclosing }) (withinSet h.id)
    (fun s => ⟨rfl, rfl⟩) (fun x s d s' hx => ?_) hchildren s s' d hs hrun
  obtain ⟨s₂, hbody, rfl⟩ := withinSet_eq_ok hx
  exact ⟨s₂, hbody, rfl, rfl⟩

lemma accountedFor_policy (definitions : List VariableDefinition) (p : Policy) :
    env.AccountedFor definitions (env.evaluatePolicy p) fun s => some (env.policyVisit p s) := by
  intro s d s' hs hrun
  obtain ⟨hknown, added, hfindings, hconcluded⟩ := accounted_policy hrun
  refine ⟨hknown ▸ hs, fun e => ?_⟩
  change env.Contributes e [env.policyVisit p s] _ _
  rw [hfindings, policyVisit, hrun]
  exact hconcluded.adds.contributes s.findings e

lemma accountedFor_set {h : Heading} {children : List Traced}
    (hchildren : ∀ t ∈ children, env.Accounted [] t) :
    env.AccountedFor [] (env.evaluateSet h (children.map Traced.child))
      fun s => some (env.setVisit h children s) := by
  intro s d s' hs hrun
  obtain ⟨hs', added, hfindings, hconcluded⟩ := accounted_set hchildren hs hrun
  refine ⟨hs', fun e => ?_⟩
  change env.Contributes e [env.setVisit h children s] _ _
  rw [hfindings, setVisit, hrun]
  exact hconcluded.adds.contributes s.findings e

/-- To resolve a reference changes nothing; one that leads nowhere adds nothing. -/
lemma accountedFor_follow {α : Type} {definitions : List VariableDefinition}
    {resolved : NodeEvaluation (Outcome α)} {x : α → NodeEvaluation Decision}
    {visit : α → Progress → Option Visit} (hresolved : ∀ s, (resolved s).2 = s)
    (hx : ∀ a, env.AccountedFor definitions (x a) (visit a)) :
    env.AccountedFor definitions (env.follow resolved x) (visitBehind resolved visit) := by
  intro s d s' hs hrun
  have hsame := hresolved s
  unfold visitBehind
  rcases env.follow_eq_ok hrun with ⟨err, s₁, hr, rfl, rfl⟩ | ⟨a, s₁, s₂, hr, ha, rfl⟩
  · rw [hr] at hsame ⊢
    subst hsame
    exact ⟨hs, fun e => contributes_nil _⟩
  · rw [hr] at hsame ⊢
    subst hsame
    exact hx a _ d s₂ hs ha

lemma resolvePolicy_keeps (env : Environment) (r : Reference) (s : Progress) :
    (env.resolvePolicy r s).2 = s := by rw [resolvePolicy_apply]

lemma resolvePolicySet_keeps (env : Environment) (r : Reference) (s : Progress) :
    (env.resolvePolicySet r s).2 = s := by rw [resolvePolicySet_apply]

lemma probeNode_keeps (node : PolicyNode) (s : Progress) : (env.probeNode node s).2 = s := by
  cases node with
  | policy p =>
    rw [probeNode]
    rfl
  | policySet h children =>
    rw [probeNode]
    rfl
  | policyRef r =>
    have hsame := resolvePolicy_keeps env r s
    rw [probeNode, bind_apply]
    rcases hr : env.resolvePolicy r s with ⟨_ | _ | _, _⟩ <;> rwa [hr] at hsame
  | policySetRef r =>
    have hsame := resolvePolicySet_keeps env r s
    rw [probeNode, bind_apply]
    rcases hr : env.resolvePolicySet r s with ⟨_ | _ | _, _⟩ <;> rwa [hr] at hsame

lemma accounted_tracedNode {enter : PolicySet → NodeEvaluation Decision}
    {enterVisit : PolicySet → Progress → Option Visit} {node : PolicyNode}
    (hnode : env.AccountedFor [] (env.evaluateNode enter node) (env.nodeVisit enter enterVisit node))
    (h : Heading) :
    env.Accounted [] ⟨env.nodeChild enter h node, env.nodeVisit enter enterVisit node⟩ := by
  refine ⟨hnode, fun s m s' hprobe => ?_⟩
  have hsame : s = s' := (probeNode_keeps node s).symm.trans (congrArg Prod.snd hprobe)
  rw [hsame]
  exact ⟨rfl, rfl⟩

lemma accountedFor_node {enter : PolicySet → NodeEvaluation Decision}
    {enterVisit : PolicySet → Progress → Option Visit}
    (henter : ∀ set, env.AccountedFor [] (enter set) (enterVisit set)) (node : PolicyNode) :
    env.AccountedFor [] (env.evaluateNode enter node) (env.nodeVisit enter enterVisit node) := by
  induction node using PolicyNode.induction with
  | policy p =>
    rw [evaluateNode, nodeVisit]
    exact accountedFor_policy [] p
  | policySet h children ih =>
    rw [evaluateNode, nodeVisit, ← child_tracedNodes env enter enterVisit]
    refine accountedFor_set fun t ht => ?_
    rw [tracedNodes_eq_map] at ht
    obtain ⟨c, hc, rfl⟩ := List.mem_map.mp ht
    exact accounted_tracedNode (ih c hc) h
  | policyRef r =>
    rw [evaluateNode, nodeVisit]
    exact accountedFor_follow (resolvePolicy_keeps env r) (accountedFor_policy [])
  | policySetRef r =>
    rw [evaluateNode, nodeVisit]
    exact accountedFor_follow (resolvePolicySet_keeps env r) henter

/-- Each policy set behind a reference is accounted for with one reference fewer to follow. -/
lemma accountedFor_enterSet (budget : ℕ) (set : PolicySet) :
    env.AccountedFor [] (env.enterSet budget set) (env.enterVisit budget set) := by
  induction budget generalizing set with
  | zero =>
    intro s d s' hs hrun
    cases hrun
    exact ⟨hs, fun e => contributes_nil _⟩
  | succ budget ih => exact accountedFor_node ih set.toNode

/-- What the evaluation of a root has found. -/
lemma concluded_root {root : Root} {d : Decision} {s : Progress}
    (hrun : env.evaluateNode (env.enterSet env.maxReferenceDepth) root.toNode {} = (.ok d, s)) :
    ∃ definitions inner,
      env.rootVisit root = .node root.kind root.heading definitions (.ok d) inner ∧
        env.Concluded root.kind root.heading definitions inner d s.findings := by
  cases root with
  | policy p =>
    rw [Root.toNode, evaluateNode] at hrun
    obtain ⟨-, added, hfindings, hconcluded⟩ := accounted_policy hrun
    rw [Findings.empty_append] at hfindings
    refine ⟨p.definitions, _, ?_, hfindings ▸ hconcluded⟩
    rw [rootVisit, policyVisit, hrun]
    rfl
  | policySet set =>
    rw [Root.toNode, PolicySet.toNode, evaluateNode,
      ← child_tracedNodes env _ (env.enterVisit env.maxReferenceDepth)] at hrun
    have hchildren : ∀ t ∈ env.tracedNodes (env.enterSet env.maxReferenceDepth)
        (env.enterVisit env.maxReferenceDepth) set.heading set.children, env.Accounted [] t := by
      intro t ht
      rw [tracedNodes_eq_map] at ht
      obtain ⟨c, -, rfl⟩ := List.mem_map.mp ht
      exact accounted_tracedNode (accountedFor_node (accountedFor_enterSet _) c) set.heading
    obtain ⟨-, added, hfindings, hconcluded⟩ := accounted_set hchildren .start hrun
    rw [Findings.empty_append] at hfindings
    refine ⟨[], _, ?_, hfindings ▸ hconcluded⟩
    rw [rootVisit, setVisit, hrun]
    rfl

section Concluded

variable {kind : PolicyKind} {h : Heading} {definitions : List VariableDefinition}
  {inner : List Visit} {d : Decision} {f : Findings}
  (hc : env.Concluded kind h definitions inner d f)
include hc

lemma Concluded.no_duties (hd : d.effect? = none) : f.obligations = [] ∧ f.advice = [] := by
  rcases hc.of_none hd with ⟨rfl, -⟩ | ⟨rfl, -⟩
  · exact ⟨rfl, rfl⟩
  · exact ⟨rfl, rfl⟩

lemma Concluded.listed_of_effect (hcollect : env.collectPolicies = true) {e : Effect}
    (hd : d.effect? = some e) :
    f.policies.map Prod.fst =
        (Visit.agreeing e (.node kind h definitions (.ok d) inner)).filterMap Visit.identifier? ∧
      (f.policies.map Prod.fst).getLast? = some ⟨kind, h.id, h.version⟩ := by
  have hpolicies := (hc.of_effect e hd).policies
  rw [hcollect, if_pos rfl] at hpolicies
  have hlisted : f.policies.map Prod.fst =
      (Visit.agreeing e (.node kind h definitions (.ok d) inner)).filterMap Visit.identifier? := by
    rw [hpolicies, List.map_map]
    exact List.map_id _
  refine ⟨hlisted, ?_⟩
  rw [hlisted, agreeing_node hd, List.filterMap_append]
  simp [Visit.identifier?]

lemma Concluded.listed_of_none (hcollect : env.collectPolicies = true) (hd : d.effect? = none) :
    (d = .notApplicable → f.policies = []) ∧
      (d.isIndeterminate = true → (env.TargetFails h → f.policies = []) ∧
        (¬ env.TargetFails h → f.policies = [(⟨kind, h.id, h.version⟩, none)])) := by
  rcases hc.of_none hd with ⟨rfl, hreason⟩ | ⟨rfl, hmatch⟩
  · refine ⟨fun _ => rfl, fun hindeterminate => ⟨fun _ => rfl, fun hmatch => ?_⟩⟩
    rcases hreason with rfl | hfails
    · cases hindeterminate
    · exact absurd hfails hmatch
  · refine ⟨fun hna => ?_, fun hindeterminate => ⟨fun hfails => absurd hfails hmatch, fun _ => ?_⟩⟩
    · simp [listing, hna]
    · have happlies : (d != .notApplicable) = true := by
        cases d <;> first | rfl | cases hindeterminate
      rw [listing, hcollect, happlies, hd]
      rfl

end Concluded

/-- The obligations and the advice in a result are those of the visited rules, policies and policy
sets that agree with its decision, as do all around them, one visit after the other; the listed
policies are the same visits, and the root comes last. Without an effect there are no duties, and at
most the root is listed: not if it does not apply, and before version 3.0 not if its target cannot be
evaluated either. -/
theorem evaluateRoot_exact {root : Root} {result : EvaluationResult}
    (hresult : env.evaluateRoot root = .ok result) :
    (env.rootVisit root).outcome = .ok result.decision ∧
    (∀ e, result.decision = e.decision →
      ∃ duties, ((env.rootVisit root).agreeing e).mapM (env.visitDuties e) = .ok duties ∧
        result.obligations = duties.flatMap (·.obligations) ∧
        result.advice = duties.flatMap (·.advice)) ∧
    (result.decision.effect? = none → result.obligations = [] ∧ result.advice = []) ∧
    (env.collectPolicies = true →
      (∀ e, result.decision = e.decision →
        result.applicablePolicies =
            ((env.rootVisit root).agreeing e).filterMap Visit.identifier? ∧
          result.applicablePolicies.getLast? = some root.identifier) ∧
      (result.decision = .notApplicable → result.applicablePolicies = []) ∧
      (result.decision.isIndeterminate = true →
        (env.TargetFails root.heading → result.applicablePolicies = []) ∧
        (¬ env.TargetFails root.heading → result.applicablePolicies = [root.identifier]))) := by
  rw [evaluateRoot_eq] at hresult
  rcases hrun : env.evaluateNode (env.enterSet env.maxReferenceDepth) root.toNode {} with
    ⟨c | d, s⟩
  · rw [hrun] at hresult
    cases hresult
  · rw [hrun] at hresult
    cases hresult
    obtain ⟨definitions, inner, hvisit, hconcluded⟩ := concluded_root hrun
    rw [hvisit]
    refine ⟨rfl, fun e he => ?_, hconcluded.no_duties, fun hcollect => ⟨fun e he => ?_, ?_, ?_⟩⟩
    · exact (hconcluded.of_effect e (Decision.effect?_eq_some.mpr he)).duties
    · exact hconcluded.listed_of_effect hcollect (Decision.effect?_eq_some.mpr he)
    · intro hna
      have hd : d.effect? = none := by rw [show d = .notApplicable from hna]; rfl
      exact congrArg (List.map Prod.fst) ((hconcluded.listed_of_none hcollect hd).1 hna)
    · intro hindeterminate
      have hd : d.effect? = none := by
        cases d <;> first | rfl | cases hindeterminate
      have hlisted := (hconcluded.listed_of_none hcollect hd).2 hindeterminate
      refine ⟨fun hfails => ?_, fun hmatch => ?_⟩
      · exact congrArg (List.map Prod.fst) (hlisted.1 hfails)
      · exact congrArg (List.map Prod.fst) (hlisted.2 hmatch)

/-- A policy with one rule, and an obligation for its effect. -/
def deciding (e : Effect) : Policy where
  heading := {
    id := e.name
    algorithm := "overrides"
    obligations := [{ id := "log", effect := e }] }
  rules := [{ id := "rule", effect := e }]

/-- Denials override, so that the permitting policy counts for nothing. -/
def overridden : PolicySet where
  heading := {
    id := "root"
    algorithm := "overrides"
    obligations := [{ id := "log", effect := .deny }] }
  children := [.policy (deciding .permit), .policy (deciding .deny)]

/-- One algorithm, and a list of the policies that applied. -/
def overriding : Environment :=
  { barren with
    algorithms := AlgorithmRegistry.empty.register "overrides"
      StandardAlgorithm.denyOverrides.algorithm
    collectPolicies := true }

theorem evaluateRoot_overridden : ∃ result,
    overriding.evaluateRoot (.policySet overridden) = .ok result ∧
      result.decision = Effect.deny.decision ∧
      ∃ duties, ((overriding.rootVisit (.policySet overridden)).agreeing .deny).mapM
          (overriding.visitDuties .deny) = .ok duties ∧
        result.obligations = duties.flatMap (·.obligations) ∧
        result.obligations.map (·.id) = ["log", "log"] ∧
        result.applicablePolicies = [⟨.policy, "Deny", "1.0"⟩, ⟨.policySet, "root", "1.0"⟩] := by
  have hvalue : (overriding.evaluateRoot (.policySet overridden)).map
      (fun r => (r.decision, r.obligations.map (·.id), r.applicablePolicies)) =
        .ok (.deny, ["log", "log"],
          [⟨.policy, "Deny", "1.0"⟩, ⟨.policySet, "root", "1.0"⟩]) := by decide +kernel
  cases hresult : overriding.evaluateRoot (.policySet overridden) with
  | error c =>
    rw [hresult] at hvalue
    cases hvalue
  | ok result =>
    rw [hresult] at hvalue
    simp only [Except.map, Except.ok.injEq, Prod.mk.injEq] at hvalue
    obtain ⟨hdecision, hobligations, hpolicies⟩ := hvalue
    obtain ⟨duties, hduties, hlog, -⟩ := (evaluateRoot_exact hresult).2.1 .deny hdecision
    exact ⟨result, rfl, hdecision, duties, hduties, hlog, hobligations, hpolicies⟩

end PolicyDecision.Environment
