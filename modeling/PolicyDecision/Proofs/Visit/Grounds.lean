import PolicyDecision.Proofs.Combining.Deferral
import PolicyDecision.Proofs.Combining.Registry
import PolicyDecision.Proofs.Visit.Exactness

/-! Every decision for an effect goes back to a rule with that effect. -/

namespace PolicyDecision

/-- The heading of a policy or a policy set. -/
def PolicyNode.heading? : PolicyNode → Option Heading
  | policy p => some p.heading
  | policySet h _ => some h
  | policyRef _ | policySetRef _ => none

namespace Environment

open Stateful NodeEvaluation

/-- The visit ended in a decision for the effect, and so did one within it, and so on down to a rule
with that effect whose target matched and whose condition was true. -/
inductive Grounded (env : Environment) (e : Effect) : Visit → Prop
  | rule {p : Policy} {r : Rule} (mem : r ∈ p.rules) (effect : r.effect = e)
      (target : env.matchTarget (targetOf p r) = .ok .isMatch)
      (condition : ∀ c, r.condition = some c →
        (env.evaluateCondition p.definitions c ∅).1 = .ok true) :
      Grounded env e (.rule p r (.ok e.decision))
  | node {kind : PolicyKind} {h : Heading} {definitions : List VariableDefinition}
      {inner : List Visit} {v : Visit} (mem : v ∈ inner) (grounded : Grounded env e v) :
      Grounded env e (.node kind h definitions (.ok e.decision) inner)

/-- Whatever the evaluation can come to is combined by standard algorithms, none of which decides
for the effect by default. -/
def Undefaulted (env : Environment) (e : Effect) (start : PolicyNode) : Prop :=
  ∀ node h a, Reaches env.repository start node → node.heading? = some h →
    env.algorithms.require h.algorithm = .ok a →
      ∃ standard : StandardAlgorithm, standard ≠ .defaultingTo e ∧ a = standard.algorithm

/-- Whenever the evaluation decides for the effect, its visit is grounded. -/
def Grounds (env : Environment) (e : Effect) (definitions : List VariableDefinition)
    (x : NodeEvaluation Decision) (visit : Progress → Option Visit) : Prop :=
  ∀ s d s', env.Settled definitions s.known → x s = (.ok d, s') → d.effect? = some e →
    ∃ v, visit s = some v ∧ env.Grounded e v

variable {env : Environment} {e : Effect} {s s' : Progress} {d : Decision}

lemma defers_of_undefaulted {start node : PolicyNode} {h : Heading} {a : CombiningAlgorithm}
    (hstart : env.Undefaulted e start) (hnode : Reaches env.repository start node)
    (hh : node.heading? = some h) (ha : env.algorithms.require h.algorithm = .ok a) :
    a.Defers e := by
  obtain ⟨standard, hstandard, rfl⟩ := hstart node h a hnode hh ha
  exact StandardAlgorithm.defers hstandard

section Rule

variable {p : Policy} {r : Rule}

lemma effect_of_concludeRule (hrun : env.concludeRule p r s = (.ok d, s'))
    (hd : d.effect? = some e) : r.effect = e := by
  rcases env.concludeRule_eq_ok hrun with ⟨rfl, -⟩ | ⟨err, known, -, rfl, -⟩
  · exact Effect.decision_injective (Decision.effect?_eq_some.mp hd)
  · rw [env.version.effect?_indeterminate] at hd
    cases hd

/-- What a condition yields does not depend on what was known of the variables. -/
lemma condition_of_conditionHolds {known known' : VariableStates}
    (hknown : env.Settled p.definitions known) (h : env.ConditionHolds p r known known')
    {c : Expression} (hc : r.condition = some c) :
    (env.evaluateCondition p.definitions c ∅).1 = .ok true := by
  unfold ConditionHolds at h
  simp only [hc] at h
  exact (Scoped.condition c).value_of_eq hknown h

lemma grounded_rule (hmem : r ∈ p.rules) (hs : env.Settled p.definitions s.known)
    (hrun : env.evaluateRule p r s = (.ok d, s')) (hd : d.effect? = some e) :
    env.Grounded e (.rule p r (.ok d)) := by
  rcases env.evaluateRule_eq_ok hrun with ⟨htarget, known, hcondition, hconclude⟩ | ⟨hnone, -⟩
  · obtain rfl := Decision.effect?_eq_some.mp hd
    exact .rule hmem (effect_of_concludeRule hconclude hd) htarget
      fun c hc => condition_of_conditionHolds hs hcondition hc
  · rw [hd] at hnone
    cases hnone

lemma grounds_rule (hmem : r ∈ p.rules) :
    env.Grounds e p.definitions (env.tracedRule p r).child.evaluate (env.tracedRule p r).visit := by
  intro s d s' hs hrun hd
  refine ⟨.rule p r (.ok d), ?_, grounded_rule hmem hs hrun hd⟩
  change some (Visit.rule p r (env.evaluateRule p r s).1) = _
  rw [show env.evaluateRule p r s = (.ok d, s') from hrun]

end Rule

section Node

variable {h : Heading} {definitions : List VariableDefinition} {children : List Traced}

/-- What is weakened or overruled in the end is not for an effect. -/
lemma effect_of_finalDecision {version : Version} {applied targetFailed : Bool}
    (hd : (finalDecision version applied targetFailed d).effect? = some e) :
    d.effect? = some e := by
  unfold finalDecision at hd
  split at hd
  · cases hd
  · split at hd
    · rw [Decision.effect?_promoted] at hd
      cases hd
    · exact hd

lemma grounded_combine (haccounted : ∀ t ∈ children, env.Accounted definitions t)
    (hgrounds : ∀ t ∈ children, env.Grounds e definitions t.child.evaluate t.visit)
    (hdefers : ∀ a, env.algorithms.require h.algorithm = .ok a → a.Defers e) {targetFailed : Bool}
    (hs : env.Settled definitions s.known)
    (hrun : env.combine h (children.map Traced.child) targetFailed s = (.ok d, s'))
    (hd : d.effect? = some e) :
    ∃ a, env.algorithms.require h.algorithm = .ok a ∧
      ∃ v ∈ (env.combineTranscript a h (children.map Traced.child) s).filterMap
        (Event.visit? children), env.Grounded e v := by
  obtain ⟨a, d₁, ha, hx, rfl⟩ := env.combine_eq_ok hrun
  have hevaluate : ∀ (i : Fin (children.map Traced.child).length) s d s',
      env.Settled definitions s.known →
      ((children.map Traced.child).get i).evaluate s = (.ok d, s') →
      env.Settled definitions s'.known := by
    intro i s d s' hs hi
    obtain ⟨t, ht, -, hchild⟩ := exists_traced children i
    rw [hchild] at hi
    exact ((haccounted t ht).evaluate s d s' hs hi).1
  have hprobe : ∀ (i : Fin (children.map Traced.child).length) s m s',
      env.Settled definitions s.known →
      recording ((children.map Traced.child).get i).probe s = (.ok m, s') →
      env.Settled definitions s'.known := by
    intro i s m s' hs hi
    obtain ⟨t, ht, -, hchild⟩ := exists_traced children i
    rw [hchild] at hi
    rw [(recording_keeps (fun m s' => (haccounted t ht).probe s m s') hi).1]
    exact hs
  obtain ⟨i, start, d', after, hstart, hi, hd', hmem⟩ :=
    Plan.Defers.exists_evaluated hevaluate hprobe (hdefers a ha _ _ _ _) hs hx
      (effect_of_finalDecision hd)
  obtain ⟨t, ht, hplace, hchild⟩ := exists_traced children i
  rw [hchild] at hi
  obtain ⟨v, hv, hgrounded⟩ := hgrounds t ht start d' after hstart hi hd'
  refine ⟨a, ha, v, List.mem_filterMap.mpr ⟨_, hmem, ?_⟩, hgrounded⟩
  rw [Event.visit?, hplace, Option.bind_some, hv]

/-- A policy or a policy set, given what it changes in the state for its body. -/
lemma exists_grounded {kind : PolicyKind} {change : Progress → Progress}
    {within : NodeEvaluation Decision → NodeEvaluation Decision}
    (hchange : ∀ s, (change s).known = s.known)
    (hwithin : ∀ x s d s', within x s = (.ok d, s') → ∃ s₁, x (change s) = (.ok d, s₁))
    (haccounted : ∀ t ∈ children, env.Accounted definitions t)
    (hgrounds : ∀ t ∈ children, env.Grounds e definitions t.child.evaluate t.visit)
    (hdefers : ∀ a, env.algorithms.require h.algorithm = .ok a → a.Defers e)
    (hs : env.Settled definitions s.known)
    (hrun : env.whenApplicable h (fun targetFailed => within <|
      env.collecting kind h definitions <|
        env.combine h (children.map Traced.child) targetFailed) s = (.ok d, s'))
    (hd : d.effect? = some e) :
    ∃ v ∈ env.visitsWithin change h children s, env.Grounded e v := by
  rcases whenApplicable_eq_ok hrun with ⟨hnone, -⟩ | ⟨-, targetFailed, s₁, hentered, hbody⟩
  · rw [hd] at hnone
    cases hnone
  · obtain ⟨s₂, hcollecting⟩ := hwithin _ _ _ _ hbody
    obtain ⟨d₁, s₃, hcombine, ⟨-, -, rfl, -⟩ | ⟨hnone, -⟩⟩ := collecting_eq_ok hcollecting
    · have hsettled : env.Settled definitions { change s₁ with findings := {} }.known := by
        simpa only [hchange, (entered_eq_some hentered).1] using hs
      obtain ⟨a, ha, hgrounded⟩ :=
        grounded_combine haccounted hgrounds hdefers hsettled hcombine hd
      rw [visitsWithin, hentered, ha]
      exact hgrounded
    · rw [hd] at hnone
      cases hnone

lemma grounds_policy {p : Policy} (definitions : List VariableDefinition)
    (hdefers : ∀ a, env.algorithms.require p.heading.algorithm = .ok a → a.Defers e) :
    env.Grounds e definitions (env.evaluatePolicy p) fun s => some (env.policyVisit p s) := by
  intro s d s' hs hrun hd
  refine ⟨_, rfl, ?_⟩
  have hvisit := hrun
  rw [evaluatePolicy, ← child_tracedRules] at hrun
  obtain ⟨s₁, hbody, rfl⟩ := withFreshVariables_eq_ok hrun
  have haccounted : ∀ t ∈ p.rules.map (env.tracedRule p), env.Accounted p.definitions t := by
    intro t ht
    obtain ⟨r, -, rfl⟩ := List.mem_map.mp ht
    exact accounted_tracedRule p r
  have hgrounds : ∀ t ∈ p.rules.map (env.tracedRule p),
      env.Grounds e p.definitions t.child.evaluate t.visit := by
    intro t ht
    obtain ⟨r, hr, rfl⟩ := List.mem_map.mp ht
    exact grounds_rule hr
  obtain ⟨v, hv, hgrounded⟩ := @exists_grounded env e _ _ _ _ _ _ _ id id (fun s => rfl)
    (fun x s d s' h => ⟨s', h⟩) haccounted hgrounds hdefers .start hbody hd
  rw [policyVisit, hvisit, Decision.effect?_eq_some.mp hd]
  exact .node hv hgrounded

lemma grounds_set (haccounted : ∀ t ∈ children, env.Accounted [] t)
    (hgrounds : ∀ t ∈ children, env.Grounds e [] t.child.evaluate t.visit)
    (hdefers : ∀ a, env.algorithms.require h.algorithm = .ok a → a.Defers e) :
    env.Grounds e [] (env.evaluateSet h (children.map Traced.child))
      fun s => some (env.setVisit h children s) := by
  intro s d s' hs hrun hd
  refine ⟨_, rfl, ?_⟩
  have hwithin : ∀ x s d s', withinSet h.id x s = (.ok d, s') →
      ∃ s₁, (x : NodeEvaluation Decision) { s with enclosing := h.id :: s.enclosing } =
        (.ok d, s₁) := by
    intro x s d s' hx
    obtain ⟨s₁, hbody, -⟩ := withinSet_eq_ok hx
    exact ⟨s₁, hbody⟩
  obtain ⟨v, hv, hgrounded⟩ := @exists_grounded env e _ _ _ _ _ _ _
    (fun s => { s with enclosing := h.id :: s.enclosing }) _ (fun s => rfl) hwithin haccounted
    hgrounds hdefers hs hrun hd
  rw [setVisit, hrun, Decision.effect?_eq_some.mp hd]
  exact .node hv hgrounded

end Node

lemma grounds_follow {α : Type} {definitions : List VariableDefinition}
    {resolved : NodeEvaluation (Outcome α)} {x : α → NodeEvaluation Decision}
    {visit : α → Progress → Option Visit} (hresolved : ∀ s, (resolved s).2 = s)
    (hx : ∀ a s, resolved s = (.ok (.ok a), s) → env.Grounds e definitions (x a) (visit a)) :
    env.Grounds e definitions (env.follow resolved x) (visitBehind resolved visit) := by
  intro s d s' hs hrun hd
  rcases env.follow_eq_ok hrun with ⟨err, s₁, -, rfl, -⟩ | ⟨a, s₁, s₂, hr, ha, -⟩
  · rw [env.version.effect?_indeterminate] at hd
    cases hd
  · obtain rfl : s₁ = s := by simpa only [hr] using hresolved s
    obtain ⟨v, hv, hgrounded⟩ :=
      hx a s₁ hr { s₁ with followed := s₁.followed + 1 } d s₂ hs ha hd
    refine ⟨v, ?_, hgrounded⟩
    rw [visitBehind, hr]
    exact hv

section Tree

variable {start : PolicyNode} (hstart : env.Undefaulted e start)
include hstart

lemma grounds_node {enter : PolicySet → NodeEvaluation Decision}
    {enterVisit : PolicySet → Progress → Option Visit}
    (haccounted : ∀ set, env.AccountedFor [] (enter set) (enterVisit set))
    (henter : ∀ set : PolicySet, Reaches env.repository start set.toNode →
      env.Grounds e [] (enter set) (enterVisit set))
    (node : PolicyNode) (hnode : Reaches env.repository start node) :
    env.Grounds e [] (env.evaluateNode enter node) (env.nodeVisit enter enterVisit node) := by
  induction node using PolicyNode.induction with
  | policy p =>
    rw [evaluateNode, nodeVisit]
    exact grounds_policy [] fun a ha => defers_of_undefaulted hstart hnode rfl ha
  | policySet h children ih =>
    rw [evaluateNode, nodeVisit, ← child_tracedNodes env enter enterVisit]
    rw [tracedNodes_eq_map]
    refine grounds_set (fun t ht => ?_) (fun t ht => ?_)
      fun a ha => defers_of_undefaulted hstart hnode rfl ha
    · obtain ⟨c, -, rfl⟩ := List.mem_map.mp ht
      exact accounted_tracedNode (accountedFor_node haccounted c) h
    · obtain ⟨c, hc, rfl⟩ := List.mem_map.mp ht
      exact ih c hc (hnode.child hc)
  | policyRef r =>
    rw [evaluateNode, nodeVisit]
    refine grounds_follow (resolvePolicy_keeps env r) fun p s hp => ?_
    have hfound := policy?_of_resolvePolicy hp
    exact grounds_policy [] fun a ha => defers_of_undefaulted hstart (hnode.policyRef hfound) rfl ha
  | policySetRef r =>
    rw [evaluateNode, nodeVisit]
    refine grounds_follow (resolvePolicySet_keeps env r) fun set s hset => ?_
    exact henter set (hnode.policySetRef (policySet?_of_resolvePolicySet hset))

lemma grounds_enterSet (budget : ℕ) (set : PolicySet)
    (hset : Reaches env.repository start set.toNode) :
    env.Grounds e [] (env.enterSet budget set) (env.enterVisit budget set) := by
  induction budget generalizing set with
  | zero =>
    intro s d s' hs hrun hd
    cases hrun
    rw [env.version.effect?_indeterminate] at hd
    cases hd
  | succ budget ih =>
    exact grounds_node hstart (accountedFor_enterSet budget) ih set.toNode hset

end Tree

/-- No decision for an effect comes out of nothing. If all algorithms are standard ones that do not
decide for it by default, then a result with the effect goes back to a rule with that effect whose
target matched and whose condition was true, and everything around the rule has decided alike. -/
theorem evaluateRoot_grounded {root : Root} {result : EvaluationResult} {e : Effect}
    (hroot : env.Undefaulted e root.toNode) (hresult : env.evaluateRoot root = .ok result)
    (hdecision : result.decision = e.decision) : env.Grounded e (env.rootVisit root) := by
  rw [evaluateRoot_eq] at hresult
  rcases hrun : env.evaluateNode (env.enterSet env.maxReferenceDepth) root.toNode {} with
    ⟨c | d, s⟩
  · rw [hrun] at hresult
    cases hresult
  · rw [hrun] at hresult
    cases hresult
    have hgrounds := grounds_node hroot (accountedFor_enterSet env.maxReferenceDepth)
      (grounds_enterSet hroot env.maxReferenceDepth) root.toNode .start
    obtain ⟨v, hv, hgrounded⟩ := hgrounds {} d s .start hrun (Decision.effect?_eq_some.mpr hdecision)
    rw [nodeVisit_root] at hv
    cases hv
    exact hgrounded

/-- The only algorithm there is has no default. -/
lemma undefaulted_overriding (e : Effect) (start : PolicyNode) :
    overriding.Undefaulted e start := by
  intro node h a _ _ ha
  refine ⟨.denyOverrides, ?_, AlgorithmRegistry.eq_of_require_register ha⟩
  cases e <;> simp [StandardAlgorithm.defaultingTo]

theorem evaluateRoot_overridden_grounded : ∃ result,
    overriding.Undefaulted .deny (Root.policySet overridden).toNode ∧
      overriding.evaluateRoot (.policySet overridden) = .ok result ∧
      result.decision = Effect.deny.decision ∧
      overriding.Grounded .deny (overriding.rootVisit (.policySet overridden)) := by
  have hvalue : (overriding.evaluateRoot (.policySet overridden)).map (·.decision) =
      .ok .deny := by decide +kernel
  cases hresult : overriding.evaluateRoot (.policySet overridden) with
  | error c =>
    rw [hresult] at hvalue
    cases hvalue
  | ok result =>
    have hdecision : result.decision = Effect.deny.decision := by
      rw [hresult] at hvalue
      exact Except.ok.inj hvalue
    have hroot := undefaulted_overriding .deny (Root.policySet overridden).toNode
    exact ⟨result, hroot, rfl, hdecision, evaluateRoot_grounded hroot hresult hdecision⟩

end Environment
end PolicyDecision
