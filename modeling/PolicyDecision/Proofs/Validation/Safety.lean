import PolicyDecision.Proofs.Expression.Faults
import PolicyDecision.Proofs.Node.Step
import PolicyDecision.Proofs.Reach

/-! Policies in which all that is named exists. Their evaluation raises no error of the
configuration. -/

namespace PolicyDecision

/-- An error of the evaluation, which makes a decision indeterminate. -/
def Fault.IsEvaluation (f : Fault) : Prop := ∃ e, f = .evaluation e

open Stateful

namespace Environment

variable (env : Environment)

/-- Whatever is known of the variables, the expression raises no error of the configuration. -/
def ExpressionSafe (definitions : List VariableDefinition) (e : Expression) : Prop :=
  Raises Fault.IsEvaluation (env.evaluate definitions e)

def DutiesSafe (definitions : List VariableDefinition) (duties : List ObligationExpression) :
    Prop :=
  ∀ o ∈ duties, ∀ a ∈ o.assignments, env.ExpressionSafe definitions a.expression

structure HeadingSafe (definitions : List VariableDefinition) (h : Heading) : Prop where
  target : ∃ m, env.matchTarget h.target = .ok m
  algorithm : ∃ a, env.algorithms.require h.algorithm = .ok a
  obligations : env.DutiesSafe definitions h.obligations
  advice : env.DutiesSafe definitions h.advice

structure RuleSafe (definitions : List VariableDefinition) (r : Rule) : Prop where
  target : ∃ m, env.matchTarget r.target = .ok m
  condition : ∀ c, r.condition = some c → env.ExpressionSafe definitions c
  obligations : env.DutiesSafe definitions r.obligations
  advice : env.DutiesSafe definitions r.advice

structure PolicySafe (p : Policy) : Prop where
  heading : env.HeadingSafe p.definitions p.heading
  definitions : ∀ d ∈ p.definitions, env.ExpressionSafe p.definitions d.expression
  rules : ∀ r ∈ p.rules, env.RuleSafe p.definitions r

/-- No part of the node itself can raise an error of the configuration. -/
def NodeSafe : PolicyNode → Prop
  | .policy p => env.PolicySafe p
  | .policySet h _ => env.HeadingSafe [] h
  | .policyRef _ | .policySetRef _ => True

variable {env}

lemma raises_condition {definitions : List VariableDefinition} {c : Expression}
    (h : env.ExpressionSafe definitions c) :
    Raises Fault.IsEvaluation (env.evaluateCondition definitions c) :=
  raises_iff_ensures.mpr (ensures_condition (fun e _ => ⟨e, rfl⟩) (raises_iff_ensures.mp h))

lemma raises_duties {definitions : List VariableDefinition} (effect : Effect)
    {obligations advice : List ObligationExpression} (ho : env.DutiesSafe definitions obligations)
    (ha : env.DutiesSafe definitions advice) :
    Raises Fault.IsEvaluation (env.evaluateDuties definitions effect obligations advice) :=
  raises_iff_ensures.mpr (ensures_duties (fun e _ => ⟨e, rfl⟩) effect
    (fun o hmem a hmem' => raises_iff_ensures.mp (ho o hmem a hmem'))
    fun o hmem a hmem' => raises_iff_ensures.mp (ha o hmem a hmem'))

end Environment

namespace NodeEvaluation

variable {α : Type}

/-- The computation ends without an error of the configuration. -/
abbrev Completes (x : NodeEvaluation α) : Prop := Raises (fun _ => False) x

lemma completes_outcome {x : Evaluation α} (h : Raises Fault.IsEvaluation x) :
    Completes (outcome x) := by
  intro s e he
  rw [outcome_apply] at he
  have hx := h s.known
  split at he
  · cases he
  · cases he
  · rename_i hs
    rw [hs] at hx
    obtain ⟨e', h'⟩ := hx _ rfl
    cases h'

lemma completes_ofResult {x : Except ConfigurationError α} (h : ∃ a, x = .ok a) :
    Completes (ofResult x) := by
  obtain ⟨a, rfl⟩ := h
  exact fun s => errors_ok a

lemma completes_failed (version : Version) (possible : Option Effect) (e : EvaluationError) :
    Completes (failed version possible e) := fun _ => errors_ok _

lemma completes_withFreshVariables {x : NodeEvaluation α} (h : Completes x) :
    Completes (withFreshVariables x) := fun s => h { s with known := ∅ }

lemma completes_withinSet {x : NodeEvaluation α} (h : Completes x) (id : String) :
    Completes (withinSet id x) := fun s => h { s with enclosing := id :: s.enclosing }

lemma completes_behindReference {x : NodeEvaluation α} (h : Completes x) :
    Completes (behindReference x) := fun s => h { s with followed := s.followed + 1 }

lemma completes_recording {x : NodeEvaluation MatchResult} (h : Completes x) :
    Completes (recording x) :=
  raises_bind h fun m => by cases m <;> exact fun _ => errors_ok _

end NodeEvaluation

open NodeEvaluation

lemma Plan.completes_run {n : ℕ} {evaluate : Fin n → NodeEvaluation Decision}
    {probe : Fin n → NodeEvaluation MatchResult} (he : ∀ i, Completes (evaluate i))
    (hp : ∀ i, Completes (probe i)) (plan : Plan n) : Completes (plan.run evaluate probe) := by
  induction plan with
  | decide d => exact raises_pure d
  | evaluate i next ih => exact raises_bind (he i) ih
  | probe i next ih => exact raises_bind (hp i) ih

namespace Environment

variable {env : Environment}

lemma completes_combine {definitions : List VariableDefinition} {h : Heading}
    (hh : env.HeadingSafe definitions h) {children : List (Child NodeEvaluation)}
    (hc : ∀ c ∈ children, Completes c.evaluate ∧ Completes c.probe) (targetFailed : Bool) :
    Completes (env.combine h children targetFailed) := by
  intro s e he
  obtain ⟨a, ha⟩ := hh.algorithm
  rw [combine_apply, ha] at he
  obtain ⟨d, s', hrun⟩ := exists_ok (Plan.completes_run
    (fun i => (hc (children.get i) (List.get_mem _ _)).1)
    (fun i => completes_recording (hc (children.get i) (List.get_mem _ _)).2)
    (a.plan children h.parameters env.version)) s
  simp only [combineRun, hrun, Except.map] at he
  cases he

lemma completes_conclude {definitions : List VariableDefinition} {h : Heading}
    (hh : env.HeadingSafe definitions h) (d : Decision) (inner : Findings) :
    Completes (env.conclude h definitions d inner) := by
  unfold conclude
  cases d.effect? with
  | none => exact raises_pure d
  | some effect =>
    refine raises_bind (completes_outcome (raises_duties effect hh.obligations hh.advice)) ?_
    intro r
    cases r with
    | ok duties => exact raises_bind (raises_modify _) fun _ => raises_pure d
    | error e => exact completes_failed _ _ e

lemma completes_collecting {definitions : List VariableDefinition} {h : Heading}
    (hh : env.HeadingSafe definitions h) (kind : PolicyKind) {body : NodeEvaluation Decision}
    (hb : Completes body) : Completes (env.collecting kind h definitions body) := by
  intro s e he
  obtain ⟨d, s', hbody⟩ := exists_ok hb { s with findings := {} }
  obtain ⟨d', s'', hconclude⟩ := exists_ok (completes_conclude hh d s'.findings)
    { s' with findings := s.findings }
  rw [collecting_apply, hbody] at he
  simp only [hconclude] at he
  cases he

lemma completes_whenApplicable {definitions : List VariableDefinition} {h : Heading}
    (hh : env.HeadingSafe definitions h) {body : Bool → NodeEvaluation Decision}
    (hb : ∀ targetFailed, Completes (body targetFailed)) : Completes (env.whenApplicable h body) := by
  obtain ⟨m, hm⟩ := hh.target
  refine raises_bind (completes_ofResult ⟨m, hm⟩) fun m => ?_
  cases m with
  | isMatch => exact hb false
  | noMatch => exact raises_pure _
  | indeterminate e =>
    simp only
    split
    · exact raises_bind (raises_modify _) fun _ => hb true
    · exact completes_failed _ _ e

lemma exists_matchTarget_targetOf {p : Policy} (hp : env.PolicySafe p) {r : Rule}
    (hr : r ∈ p.rules) : ∃ m, env.matchTarget (targetOf p r) = .ok m := by
  unfold targetOf
  cases ht : r.target with
  | none => exact hp.heading.target
  | some t =>
    have htarget := (hp.rules r hr).target
    rw [ht] at htarget
    exact htarget

lemma completes_rule {p : Policy} (hp : env.PolicySafe p) {r : Rule} (hr : r ∈ p.rules) :
    Completes (env.evaluateRule p r) ∧ Completes (env.probeRule p r) := by
  have hs := hp.rules r hr
  have htarget := exists_matchTarget_targetOf hp hr
  have hconclude : Completes (env.concludeRule p r) := by
    unfold concludeRule
    split
    · refine raises_bind (completes_outcome (raises_duties _ hs.obligations hs.advice)) ?_
      intro result
      cases result with
      | ok duties => exact raises_bind (raises_modify _) fun _ => raises_pure _
      | error e => exact completes_failed _ _ e
    · exact raises_pure _
  have hmatching : Completes (env.evaluateMatchingRule p r) := by
    unfold evaluateMatchingRule
    cases hc : r.condition with
    | none => exact hconclude
    | some c =>
      refine raises_bind (completes_outcome (raises_condition (hs.condition c hc))) fun b => ?_
      rcases b with e | _ | _
      · exact completes_failed _ _ e
      · exact raises_pure _
      · exact hconclude
  refine ⟨raises_bind (completes_ofResult htarget) fun m => ?_, completes_ofResult htarget⟩
  cases m with
  | isMatch => exact hmatching
  | noMatch => exact raises_pure _
  | indeterminate e => exact completes_failed _ _ e

lemma completes_policy {p : Policy} (hp : env.PolicySafe p) :
    Completes (env.evaluatePolicy p) := by
  refine completes_withFreshVariables (completes_whenApplicable hp.heading fun targetFailed => ?_)
  refine completes_collecting hp.heading .policy (completes_combine hp.heading ?_ targetFailed)
  intro c hc
  obtain ⟨r, hr, rfl⟩ := List.mem_map.mp hc
  exact completes_rule hp hr

lemma completes_set {h : Heading} (hh : env.HeadingSafe [] h)
    {children : List (Child NodeEvaluation)}
    (hc : ∀ c ∈ children, Completes c.evaluate ∧ Completes c.probe) :
    Completes (env.evaluateSet h children) :=
  completes_whenApplicable hh fun targetFailed => completes_withinSet
    (completes_collecting hh .policySet (completes_combine hh hc targetFailed)) h.id

lemma completes_follow {α : Type} {resolved : NodeEvaluation (Outcome α)}
    {evaluate : α → NodeEvaluation Decision} (hr : Completes resolved)
    (he : ∀ a s s', resolved s = (.ok (.ok a), s') → Completes (evaluate a)) :
    Completes (env.follow resolved evaluate) := by
  intro s e h
  rw [follow_apply] at h
  have hs := hr s
  split at h
  · exact completes_behindReference (he _ _ _ ‹_›) _ e h
  · cases h
  · rename_i hx
    rw [hx] at hs
    exact (hs _ rfl).elim

lemma completes_resolvePolicy (env : Environment) (r : Reference) : Completes (env.resolvePolicy r) := by
  intro s e h
  rw [resolvePolicy_apply] at h
  cases h

lemma completes_resolvePolicySet (env : Environment) (r : Reference) :
    Completes (env.resolvePolicySet r) := by
  intro s e h
  rw [resolvePolicySet_apply] at h
  cases h

section Reached

variable {start : PolicyNode} (hsafe : ∀ n, Reaches env.repository start n → env.NodeSafe n)
include hsafe

lemma completes_probe {node : PolicyNode} (hnode : Reaches env.repository start node) :
    Completes (env.probeNode node) := by
  cases node with
  | policy p =>
    rw [probeNode]
    exact completes_ofResult (hsafe _ hnode).heading.target
  | policySet h children =>
    rw [probeNode]
    exact completes_ofResult (hsafe _ hnode).target
  | policyRef r =>
    rw [probeNode]
    intro s e he
    obtain ⟨found, s', hs⟩ := exists_ok (completes_resolvePolicy env r) s
    rw [bind_apply, hs] at he
    cases found with
    | error e => cases he
    | ok p =>
      have hp := hsafe _ (.policyRef hnode (policy?_of_resolvePolicy hs))
      exact completes_ofResult hp.heading.target s' e he
  | policySetRef r =>
    rw [probeNode]
    intro s e he
    obtain ⟨found, s', hs⟩ := exists_ok (completes_resolvePolicySet env r) s
    rw [bind_apply, hs] at he
    cases found with
    | error e => cases he
    | ok p =>
      have hp := hsafe _ (.policySetRef hnode (policySet?_of_resolvePolicySet hs))
      exact completes_ofResult hp.target s' e he

lemma completes_node_of_enter {enter : PolicySet → NodeEvaluation Decision}
    (henter : ∀ s : PolicySet, Reaches env.repository start s.toNode → Completes (enter s))
    (node : PolicyNode) (hnode : Reaches env.repository start node) :
    Completes (env.evaluateNode enter node) := by
  induction node using PolicyNode.induction with
  | policy p =>
    rw [evaluateNode]
    exact completes_policy (hsafe _ hnode)
  | policySet h children ih =>
    rw [evaluateNode, nodeChildren_eq_map]
    refine completes_set (hsafe _ hnode) fun c hc => ?_
    obtain ⟨n, hn, rfl⟩ := List.mem_map.mp hc
    exact ⟨ih n hn (.child hnode hn), completes_probe hsafe (.child hnode hn)⟩
  | policyRef r =>
    rw [evaluateNode]
    refine completes_follow (completes_resolvePolicy env r) fun p s s' hs => ?_
    exact completes_policy (hsafe _ (.policyRef hnode (policy?_of_resolvePolicy hs)))
  | policySetRef r =>
    rw [evaluateNode]
    refine completes_follow (completes_resolvePolicySet env r) fun p s s' hs => ?_
    exact henter p (.policySetRef hnode (policySet?_of_resolvePolicySet hs))

/-- The evaluation of a node ends without an error of the configuration if nothing that it can come
to names what does not exist. -/
theorem completes_node (budget : ℕ) {node : PolicyNode}
    (hnode : Reaches env.repository start node) :
    Completes (env.evaluateNode (env.enterSet budget) node) := by
  induction budget generalizing node with
  | zero => exact completes_node_of_enter hsafe (fun s _ => raises_pure _) node hnode
  | succ budget ih => exact completes_node_of_enter hsafe (fun s hs => ih hs) node hnode

end Reached

end Environment
end PolicyDecision
