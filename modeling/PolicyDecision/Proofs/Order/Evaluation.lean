import PolicyDecision.Proofs.Combining.Registry
import PolicyDecision.Proofs.Correspondence.Recursion
import PolicyDecision.Proofs.Order.Steady
import PolicyDecision.Proofs.Validation.Soundness

/-! Policies and policy sets whose rules or children stand in another order. Each child answers the
same in every order, and an algorithm for which the order does not matter decides the same. -/

namespace PolicyDecision

open Stateful NodeEvaluation
open Progress (At)

variable {K : VariableStates → Prop} {enclosing : List String} {followed : ℕ}

/-- The heading with another algorithm. -/
def Heading.combinedBy (h : Heading) (uri : String) : Heading := { h with algorithm := uri }

/-- Both computations have the same decision, wherever in an evaluation they stand. -/
def Agree (I : Progress → Prop) (x y : NodeEvaluation Decision) : Prop :=
  ∃ d, Steady I id x d ∧ Steady I id y d

lemma agree_bind {α : Type} {I : Progress → Prop} {x : NodeEvaluation α} {a : α}
    {f g : α → NodeEvaluation Decision} (hx : Steady I id x a) (hfg : Agree I (f a) (g a)) :
    Agree I (x >>= f) (x >>= g) := by
  obtain ⟨d, hf, hg⟩ := hfg
  exact ⟨d, steady_then hx hf, steady_then hx hg⟩

lemma agree_withFreshVariables {K' : VariableStates → Prop} (hempty : K' ∅)
    {x y : NodeEvaluation Decision} (h : Agree (At K' enclosing followed) x y) :
    Agree (At K enclosing followed) (withFreshVariables x) (withFreshVariables y) := by
  obtain ⟨d, hx, hy⟩ := h
  exact ⟨d, steady_withFreshVariables hempty hx, steady_withFreshVariables hempty hy⟩

lemma agree_withinSet {name : String} {x y : NodeEvaluation Decision}
    (h : Agree (At K (name :: enclosing) followed) x y) :
    Agree (At K enclosing followed) (withinSet name x) (withinSet name y) := by
  obtain ⟨d, hx, hy⟩ := h
  exact ⟨d, steady_withinSet hx, steady_withinSet hy⟩

/-- The child always answers as it is known to. -/
structure Child.Replies (I : Progress → Prop) (c : Child NodeEvaluation) (r : Reply) : Prop where
  info : c.info = r.info
  evaluate : Steady I id c.evaluate r.decision
  probe : Steady I id c.probe r.target

section Outcome

variable {α β : Type} {I : Progress → Prop} {x : Evaluation α} {f : Outcome α → NodeEvaluation β}
  {b : β}

lemma steady_of_some {a : α} (hx : Steady I Except.toOption (outcome x) (some a))
    (hok : Steady I id (f (.ok a)) b) : Steady I id (outcome x >>= f) b := by
  refine steady_bind hx fun result hresult => ?_
  rwa [except_toOption_eq_some.mp hresult]

/-- The errors may differ, but none of them may matter. -/
lemma steady_of_none (hx : Steady I Except.toOption (outcome x) none)
    (herror : ∀ e, Steady I id (f (.error e)) b) : Steady I id (outcome x >>= f) b := by
  refine steady_bind hx fun result hresult => ?_
  cases result with
  | ok a => cases hresult
  | error e => exact herror e

end Outcome

/-- Children that always answer the same lead a plan to what it decides for these answers. -/
lemma Plan.steady_runNoted {n : ℕ} {evaluate : Fin n → NodeEvaluation Decision}
    {probe : Fin n → NodeEvaluation MatchResult} {answer : Fin n → Decision}
    {look : Fin n → MatchResult}
    (hevaluate : ∀ i, Steady (At K enclosing followed) id (evaluate i) (answer i))
    (hprobe : ∀ i, Steady (At K enclosing followed) id (probe i) (look i)) (plan : Plan n)
    (applied : Bool) :
    Steady (At K enclosing followed) id (plan.runNoted evaluate probe applied)
      (plan.outcome answer look applied) := by
  induction plan generalizing applied with
  | decide d => exact steady_pure rfl
  | evaluate i next ih =>
    rw [runNoted_evaluate, noteDecision_eq_bind, bind_assoc]
    refine steady_bind (hevaluate i) fun d hd => ?_
    rw [pure_bind, show d = answer i from hd]
    exact ih (answer i) _
  | probe i next ih =>
    rw [runNoted_probe, noteMatch_eq_bind, bind_assoc]
    refine steady_bind (steady_recording (hprobe i)) fun m hm => ?_
    rw [pure_bind, show m = look i from hm]
    exact ih (look i) _

namespace Environment

variable {env : Environment} {h : Heading} {definitions : List VariableDefinition}

lemma whenApplicable_combinedBy (uri : String) (body : Bool → NodeEvaluation Decision) :
    env.whenApplicable (h.combinedBy uri) body = env.whenApplicable h body := rfl

lemma collecting_combinedBy (uri : String) (kind : PolicyKind) (body : NodeEvaluation Decision) :
    env.collecting kind (h.combinedBy uri) definitions body =
      env.collecting kind h definitions body := rfl

section Combine

variable {a : CombiningAlgorithm}

lemma steady_combine (ha : env.algorithms.require h.algorithm = .ok a)
    {children : List (Child NodeEvaluation)} {replies : List Reply}
    (hreplies : List.Forall₂ (Child.Replies (At K enclosing followed)) children replies)
    (targetFailed : Bool) :
    Steady (At K enclosing followed) id (env.combine h children targetFailed)
      (finalDecision env.version (a.outcome replies h.parameters env.version).2 targetFailed
        (a.outcome replies h.parameters env.version).1) := by
  have hlength := hreplies.length_eq
  have hchild : ∀ i : Fin replies.length, Child.Replies (At K enclosing followed)
      (children.get (i.cast hlength.symm)) (replies.get i) := fun i =>
    hreplies.get (i.cast hlength.symm).isLt i.isLt
  unfold combine
  rw [ha]
  change Steady _ id ((a.run (children.map noted) h.parameters env.version).run false >>= fun p =>
    pure (finalDecision env.version p.2 targetFailed p.1) : NodeEvaluation Decision) _
  -- The children are counted by their replies, for it is a plan about these that is to be compared.
  rw [Correspondence.run_noted_of_length a hlength.symm, funext fun i => (hchild i).info]
  refine steady_bind (Plan.steady_runNoted (fun i => (hchild i).evaluate)
    (fun i => (hchild i).probe) _ false) fun p hp => steady_pure ?_
  rw [show p = _ from hp]
  rfl

/-- What the children answer goes along with them into another order. The algorithm may be named
otherwise. -/
lemma agree_combine {uri : String} (ha : env.algorithms.require h.algorithm = .ok a)
    (ha' : env.algorithms.require uri = .ok a) (hunordered : a.Unordered)
    {children children' : List (Child NodeEvaluation)} (hperm : children.Perm children')
    (hreplies : ∀ c ∈ children, ∃ r, c.Replies (At K enclosing followed) r)
    (targetFailed : Bool) :
    Agree (At K enclosing followed) (env.combine h children targetFailed)
      (env.combine (h.combinedBy uri) children' targetFailed) := by
  have : Nonempty Reply := ⟨⟨{}, .notApplicable, .noMatch⟩⟩
  choose! reply hreply using hreplies
  have hreplies' : List.Forall₂ (Child.Replies (At K enclosing followed)) children'
      (children'.map reply) :=
    List.forall₂_map_right_iff.mpr
      (List.forall₂_same.mpr fun c hc => hreply c (hperm.mem_iff.mpr hc))
  refine ⟨_, steady_combine ha
    (List.forall₂_map_right_iff.mpr (List.forall₂_same.mpr hreply)) targetFailed, ?_⟩
  rw [hunordered (hperm.map reply)]
  exact steady_combine (h := h.combinedBy uri) ha' hreplies' targetFailed

end Combine

section Duties

variable (hduties : ∀ effect, ∃ r, Steady (At K enclosing followed) Except.toOption
  (outcome (env.evaluateDuties definitions effect h.obligations h.advice)) r)
include hduties

/-- Whether the duties can be evaluated does not depend on what has been found. -/
lemma exists_steady_conclude (d : Decision) : ∃ d', ∀ inner,
    Steady (At K enclosing followed) id (env.conclude h definitions d inner) d' := by
  unfold conclude
  cases d.effect? with
  | none => exact ⟨d, fun _ => steady_pure rfl⟩
  | some effect =>
    obtain ⟨r, hr⟩ := hduties effect
    cases r with
    | none => exact ⟨_, fun inner => steady_of_none hr fun e => steady_failed _ (some effect) e⟩
    | some duties =>
      exact ⟨d, fun inner => steady_of_some hr
        (steady_then (steady_modifyFindings _) (steady_pure rfl))⟩

lemma agree_collecting (kind : PolicyKind) {body body' : NodeEvaluation Decision}
    (hbody : Agree (At K enclosing followed) body body') :
    Agree (At K enclosing followed) (env.collecting kind h definitions body)
      (env.collecting kind h definitions body') := by
  obtain ⟨d, hd, hd'⟩ := hbody
  obtain ⟨e, he⟩ := exists_steady_conclude hduties d
  have hcollecting : ∀ x, Steady (At K enclosing followed) id x d →
      Steady (At K enclosing followed) id (env.collecting kind h definitions x) e := by
    intro x hx
    refine steady_bind (steady_withFreshFindings hx) fun p hp => ?_
    obtain ⟨d', inner⟩ := p
    obtain rfl : d' = d := hp
    refine steady_bind (he inner) fun e' he' => ?_
    split
    · exact steady_then (steady_modifyFindings _) (steady_pure he')
    · exact steady_pure he'
  exact ⟨e, hcollecting body hd, hcollecting body' hd'⟩

end Duties

lemma agree_whenApplicable (htarget : ∃ m, env.matchTarget h.target = .ok m)
    {body body' : Bool → NodeEvaluation Decision}
    (hbody : ∀ targetFailed,
      Agree (At K enclosing followed) (body targetFailed) (body' targetFailed)) :
    Agree (At K enclosing followed) (env.whenApplicable h body) (env.whenApplicable h body') := by
  obtain ⟨m, hm⟩ := htarget
  refine agree_bind (steady_ofResult hm) ?_
  cases m with
  | isMatch => exact hbody false
  | noMatch => exact ⟨.notApplicable, steady_pure rfl, steady_pure rfl⟩
  | indeterminate e =>
    simp only
    split
    · exact agree_bind (steady_record e) (hbody true)
    · exact ⟨_, steady_failed _ none e, steady_failed _ none e⟩

section Policy

variable {p : Policy} (hp : env.PolicySafe p)
include hp

lemma exists_steady_concludeRule {r : Rule} (hr : r ∈ p.rules) :
    ∃ d, Steady (At (env.Settled p.definitions) enclosing followed) id
      (env.concludeRule p r) d := by
  unfold concludeRule
  split
  · have hrule := hp.rules r hr
    obtain ⟨result, hresult⟩ := (Scoped.duties r.effect r.obligations r.advice).exists_steady
      (raises_duties r.effect hrule.obligations hrule.advice)
    cases result with
    | none => exact ⟨_, steady_of_none hresult fun e => steady_failed _ _ e⟩
    | some duties =>
      exact ⟨_, steady_of_some hresult (steady_then (steady_modifyFindings _) (steady_pure rfl))⟩
  · exact ⟨_, steady_pure rfl⟩

/-- What a rule decides does not depend on the rules before it. -/
lemma exists_steady_rule {r : Rule} (hr : r ∈ p.rules) :
    ∃ d, Steady (At (env.Settled p.definitions) enclosing followed) id
      (env.evaluateRule p r) d := by
  have hmatching : ∃ d, Steady (At (env.Settled p.definitions) enclosing followed) id
      (env.evaluateMatchingRule p r) d := by
    unfold evaluateMatchingRule
    cases hc : r.condition with
    | none => exact exists_steady_concludeRule hp hr
    | some c =>
      obtain ⟨result, hresult⟩ := (Scoped.condition c).exists_steady
        (raises_condition ((hp.rules r hr).condition c hc))
      rcases result with _ | _ | _
      · exact ⟨_, steady_of_none hresult fun e => steady_failed _ _ e⟩
      · exact ⟨_, steady_of_some hresult (steady_pure rfl)⟩
      · obtain ⟨d, hd⟩ := exists_steady_concludeRule hp hr
        exact ⟨d, steady_of_some hresult hd⟩
  obtain ⟨m, hm⟩ := exists_matchTarget_targetOf hp hr
  obtain ⟨d, hd⟩ := hmatching
  unfold evaluateRule
  cases m with
  | isMatch => exact ⟨d, steady_then (steady_ofResult hm) hd⟩
  | noMatch => exact ⟨_, steady_then (steady_ofResult hm) (steady_pure rfl)⟩
  | indeterminate e => exact ⟨_, steady_then (steady_ofResult hm) (steady_failed _ _ e)⟩

lemma exists_reply_rule {r : Rule} (hr : r ∈ p.rules) :
    ∃ reply, (env.ruleChild p r).Replies (At (env.Settled p.definitions) enclosing followed)
      reply := by
  obtain ⟨d, hd⟩ := exists_steady_rule hp hr
  obtain ⟨m, hm⟩ := exists_matchTarget_targetOf hp hr
  exact ⟨⟨_, d, m⟩, rfl, hd, steady_ofResult hm⟩

/-- The rules of a policy are evaluated alike in every order, for what is known of the variables
does not matter to any of them. -/
lemma agree_evaluatePolicy {a : CombiningAlgorithm} {uri : String}
    (ha : env.algorithms.require p.heading.algorithm = .ok a)
    (ha' : env.algorithms.require uri = .ok a) (hunordered : a.Unordered) {rules : List Rule}
    (hperm : p.rules.Perm rules) :
    Agree (At K enclosing followed) (env.evaluatePolicy p)
      (env.evaluatePolicy { p with heading := p.heading.combinedBy uri, rules }) := by
  unfold evaluatePolicy
  simp only [whenApplicable_combinedBy, collecting_combinedBy]
  refine agree_withFreshVariables (Settled.start : env.Settled p.definitions ∅)
    (agree_whenApplicable hp.heading.target fun targetFailed => ?_)
  refine agree_collecting (fun effect => ?_) .policy
    (agree_combine ha ha' hunordered (hperm.map (env.ruleChild p)) ?_ targetFailed)
  · exact (Scoped.duties effect p.heading.obligations p.heading.advice).exists_steady
      (raises_duties effect hp.heading.obligations hp.heading.advice)
  · intro c hc
    obtain ⟨r, hr, rfl⟩ := List.mem_map.mp hc
    exact exists_reply_rule hp hr

end Policy

section PolicySet

/-- At a place in the policy tree, what does not depend on the rest of the state has one result. -/
lemma exists_steady_of_parallels {α : Type} {x : NodeEvaluation α} (hx : Completes x)
    (hself : (Correspondence.between Function.injective_id Eq).Parallels id x x) :
    ∃ a, Steady (At K enclosing followed) id x a := by
  obtain ⟨a, start', hstart⟩ := exists_ok hx { enclosing, followed }
  refine ⟨a, fun s hs => ?_⟩
  obtain ⟨hknown, henclosing, hfollowed⟩ := hs
  obtain ⟨r, added, hnone, hr, hrun⟩ := hself { enclosing, followed } s
    (Prod.ext henclosing.symm hfollowed.symm)
  obtain rfl : Except.ok a = r := congrArg Prod.fst (hstart.symm.trans hr)
  refine ⟨a, _, hrun, rfl, ?_, henclosing, hfollowed⟩
  rwa [Progress.extended, Yield.turned, hnone rfl]

variable {start : PolicyNode} (hsafe : ∀ n, Reaches env.repository start n → env.NodeSafe n)
include hsafe

/-- A child of a policy set answers the same whatever its siblings have been asked. -/
lemma exists_reply_child (h : Heading) {c : PolicyNode} (hc : Reaches env.repository start c) :
    ∃ reply, (env.evaluatedChild h c).Replies (At K enclosing followed) reply := by
  have hevaluate : ∃ d, Steady (At K enclosing followed) id
      (env.evaluateNode (env.enterSet (env.maxReferenceDepth - followed)) c) d :=
    exists_steady_of_parallels (completes_node hsafe _ hc) (env.parallels_self _ c)
  have hprobe : ∃ m, Steady (At K enclosing followed) id (env.probeNode c) m :=
    exists_steady_of_parallels (completes_probe hsafe hc)
      (RepositoryAlike.same.parallels_probeNode Function.injective_id (.same c))
  obtain ⟨d, hd⟩ := hevaluate
  obtain ⟨m, hm⟩ := hprobe
  refine ⟨⟨_, d, m⟩, rfl, fun s hs => ?_, hm⟩
  -- The references that have been followed to this place determine the bound of the evaluation.
  obtain ⟨-, -, rfl⟩ := id hs
  exact hd s hs

lemma agree_evaluateSet {h : Heading} {children children' : List PolicyNode}
    (hset : Reaches env.repository start (.policySet h children)) {a : CombiningAlgorithm}
    {uri : String} (ha : env.algorithms.require h.algorithm = .ok a)
    (ha' : env.algorithms.require uri = .ok a) (hunordered : a.Unordered)
    (hperm : children.Perm children') :
    Agree (At K enclosing followed) (env.evaluateChild (.policySet h children))
      (env.evaluateChild (.policySet (h.combinedBy uri) children')) := by
  have hheading : env.HeadingSafe [] h := hsafe _ hset
  rw [evaluateChild_policySet, evaluateChild_policySet]
  unfold evaluateSet
  simp only [whenApplicable_combinedBy, collecting_combinedBy]
  refine agree_whenApplicable hheading.target fun targetFailed => agree_withinSet ?_
  refine agree_collecting (fun effect => ?_) .policySet
    (agree_combine ha ha' hunordered (hperm.map (env.evaluatedChild h)) ?_ targetFailed)
  · exact (env.stateless_duties effect h.obligations h.advice).exists_steady
      (raises_duties effect hheading.obligations hheading.advice)
  · intro c hc
    obtain ⟨node, hnode, rfl⟩ := List.mem_map.mp hc
    exact exists_reply_child hsafe h (.child hset hnode)

end PolicySet

end Environment

/-- The same policy or policy set with its rules or its children in another order. Both name the
same algorithm, though the second may name another form of it. -/
inductive PolicyNode.Rearranged (algorithms : AlgorithmRegistry) (a : CombiningAlgorithm) :
    PolicyNode → PolicyNode → Prop
  | policy {p : Policy} {uri : String} {rules : List Rule}
      (first : algorithms.require p.heading.algorithm = .ok a)
      (second : algorithms.require uri = .ok a) (perm : p.rules.Perm rules) :
      Rearranged algorithms a (.policy p)
        (.policy { p with heading := p.heading.combinedBy uri, rules })
  | policySet {h : Heading} {children : List PolicyNode} {uri : String}
      {children' : List PolicyNode} (first : algorithms.require h.algorithm = .ok a)
      (second : algorithms.require uri = .ok a) (perm : children.Perm children') :
      Rearranged algorithms a (.policySet h children) (.policySet (h.combinedBy uri) children')

lemma PolicyNode.Rearranged.agree {env : Environment} {a : CombiningAlgorithm}
    (hunordered : a.Unordered) {node node' : PolicyNode}
    (h : node.Rearranged env.algorithms a node')
    (hsafe : ∀ n, Reaches env.repository node n → env.NodeSafe n) :
    Agree (At K enclosing followed) (env.evaluateChild node) (env.evaluateChild node') := by
  cases h with
  | policy first second perm =>
    rw [Environment.evaluateChild_policy, Environment.evaluateChild_policy]
    exact Environment.agree_evaluatePolicy (hsafe _ .start) first second hunordered perm
  | policySet first second perm =>
    exact Environment.agree_evaluateSet hsafe .start first second hunordered perm

/-- Where one effect overrides the other, or is the default, the order of the rules and of the
children does not matter to the decision. This holds for every node of a decision point that has
been built without an external repository, for every request in every version, and wherever the node
is evaluated. So the forms of these algorithms that promise an order need no algorithms of their
own. -/
theorem Deployment.decision_of_rearranged {d : Deployment} {p : DecisionPoint}
    (hbuild : d.build = .ok p) (hexternal : d.external = none) {node node' : PolicyNode}
    (hnode : Deployed p.root d.store node) {a : StandardAlgorithm}
    (ha : a ∈ StandardAlgorithm.unordered)
    (h : node.Rearranged p.libraries.algorithms a.algorithm node') (now : Calendar.DateTime)
    (r : Request) (s : Progress) :
    ∃ decision, ((p.environment now r).evaluateChild node s).1 = .ok decision ∧
      ((p.environment now r).evaluateChild node' s).1 = .ok decision := by
  obtain ⟨decision, hfirst, hsecond⟩ := h.agree (StandardAlgorithm.unordered_of_mem ha)
    fun _ hnode' => nodeSafe_of_build hbuild hexternal hnode now r hnode'
  have hs : At (fun _ => True) s.enclosing s.followed s := ⟨trivial, rfl, rfl⟩
  obtain ⟨d₁, s₁, hrun₁, rfl, -⟩ := hfirst s hs
  obtain ⟨d₂, s₂, hrun₂, hd₂, -⟩ := hsecond s hs
  refine ⟨d₁, ?_, ?_⟩
  · exact congrArg Prod.fst hrun₁
  · rw [hrun₂]
    exact congrArg _ hd₂

/-- A form of a standard algorithm stands for it unless the deployment replaces it. -/
lemma Deployment.require_of_shared {d : Deployment} {version name uri : String}
    {a : StandardAlgorithm} (hform : (version, name, a) ∈ StandardAlgorithm.shared)
    (huri : uri = StandardAlgorithm.ruleUri version name ∨
      uri = StandardAlgorithm.policyUri version name) (hadded : uri ∉ d.algorithms.map Prod.fst) :
    d.libraries.algorithms.require uri = .ok a.algorithm := by
  have hlookup : StandardAlgorithm.library.lookup uri = some a := by
    rcases huri with rfl | rfl
    · exact StandardAlgorithm.lookup_ruleUri hform
    · exact StandardAlgorithm.lookup_policyUri hform
  rw [libraries, AlgorithmRegistry.require_foldl_register _ hadded,
    AlgorithmRegistry.require_standard, hlookup]

/-- A policy in which a permit stands before a denial. -/
def Policy.contested : Policy where
  heading := { id := "door", algorithm := StandardAlgorithm.ruleUri "3.0" "deny-overrides" }
  rules := [{ id := "open", effect := .permit }, { id := "shut", effect := .deny }]

/-- The same policy with the denial first, by the ordered form of its algorithm. -/
def Policy.contestedInOrder : Policy where
  heading := { id := "door", algorithm := StandardAlgorithm.ruleUri "3.0" "ordered-deny-overrides" }
  rules := [{ id := "shut", effect := .deny }, { id := "open", effect := .permit }]

def Deployment.contested : Deployment where
  root := some (.policy .contested)

theorem Deployment.decision_contested : ∃ p, Deployment.contested.build = .ok p ∧
    Deployment.contested.external = none ∧
    Deployed p.root Deployment.contested.store (.policy .contested) ∧
    StandardAlgorithm.denyOverrides ∈ StandardAlgorithm.unordered ∧
    PolicyNode.Rearranged p.libraries.algorithms StandardAlgorithm.denyOverrides.algorithm
      (.policy .contested) (.policy .contestedInOrder) ∧
    ∀ now r s, ∃ decision,
      ((p.environment now r).evaluateChild (.policy .contested) s).1 = .ok decision ∧
        ((p.environment now r).evaluateChild (.policy .contestedInOrder) s).1 = .ok decision := by
  have hfirst : Deployment.contested.libraries.algorithms.require
      Policy.contested.heading.algorithm = .ok StandardAlgorithm.denyOverrides.algorithm :=
    Deployment.require_of_shared (by decide) (Or.inl rfl) (by simp [Deployment.contested])
  have hsecond : Deployment.contested.libraries.algorithms.require
      Policy.contestedInOrder.heading.algorithm = .ok StandardAlgorithm.denyOverrides.algorithm :=
    Deployment.require_of_shared (by decide) (Or.inl rfl) (by simp [Deployment.contested])
  have hcheck : Deployment.contested.libraries.checkAll (.policy .contested)
      Deployment.contested.store = .ok () := by
    simp only [Libraries.checkAll, Libraries.checkRoot, Libraries.checkPolicy, check_bind_eq_ok]
    refine ⟨⟨checkVersion_default _, Libraries.checkAlgorithm_eq_ok.mpr ⟨_, hfirst⟩, ?_⟩, rfl, rfl⟩
    decide
  have hbuild := Deployment.build_eq_ok.mpr ⟨.policy .contested, rfl, hcheck, rfl⟩
  have hrearranged : PolicyNode.Rearranged Deployment.contested.libraries.algorithms
      StandardAlgorithm.denyOverrides.algorithm (.policy .contested)
      (.policy .contestedInOrder) := .policy hfirst hsecond (List.Perm.swap _ _ [])
  exact ⟨_, hbuild, rfl, .root, by decide, hrearranged, fun now r s =>
    Deployment.decision_of_rearranged hbuild rfl .root (by decide) hrearranged now r s⟩

end PolicyDecision
