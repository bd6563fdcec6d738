import PolicyDecision.Proofs.Correspondence.Tree
import PolicyDecision.Proofs.Spelling.Node

/-! The policy tree in canonical form, and what its references lead to. -/

namespace PolicyDecision.Environment

open Stateful NodeEvaluation

variable {env env' : Environment} (h : env.Spells env')
include h

section References

variable (r : Reference)

lemma Spells.resolvePolicy_eq :
    spelling.Carries (rewritten EvaluationError.canonical Policy.canonical)
      (env.resolvePolicy r) (env'.resolvePolicy r) := by
  intro s
  rw [resolvePolicy_apply, resolvePolicy_apply, h.maxReferenceDepth, h.repository,
    show (spelling.state s).followed = s.followed from rfl]
  have hfound : env.repository.canonical.policy? r.id r.constraints =
      (env.repository.policy? r.id r.constraints).map .canonical := rfl
  rw [hfound]
  split
  · rfl
  · cases env.repository.policy? r.id r.constraints <;> rfl

lemma Spells.resolvePolicySet_eq :
    spelling.Carries (rewritten EvaluationError.canonical PolicySet.canonical)
      (env.resolvePolicySet r) (env'.resolvePolicySet r) := by
  intro s
  rw [resolvePolicySet_apply, resolvePolicySet_apply, h.maxReferenceDepth, h.repository,
    show (spelling.state s).followed = s.followed from rfl,
    show (spelling.state s).enclosing = s.enclosing from rfl]
  have hfound : env.repository.canonical.policySet? r.id r.constraints =
      (env.repository.policySet? r.id r.constraints).map .canonical := rfl
  rw [hfound]
  split
  · rfl
  · split
    · rfl
    · cases env.repository.policySet? r.id r.constraints <;> rfl

variable {α : Type} {canonical : α → α} {resolved resolved' : NodeEvaluation (Outcome α)}

lemma Spells.follow_eq (hresolved : spelling.Carries
      (rewritten EvaluationError.canonical canonical) resolved resolved')
    {evaluate evaluate' : α → NodeEvaluation Decision}
    (hevaluate : ∀ a, spelling.Carries id (evaluate a) (evaluate' (canonical a))) :
    spelling.Carries id (env.follow resolved evaluate) (env'.follow resolved' evaluate') := by
  refine carries_bind hresolved fun found => ?_
  cases found with
  | ok a => exact carries_behindReference (hevaluate a)
  | error e =>
    rw [h.version]
    exact carries_failed env.version none e

lemma Spells.probeReference_eq (hresolved : spelling.Carries
      (rewritten EvaluationError.canonical canonical) resolved resolved')
    {target : α → Option Target} (htarget : ∀ a, target (canonical a) = (target a).map .canonical) :
    spelling.Carries MatchResult.canonical (env.probeReference resolved target)
      (env'.probeReference resolved' target) := by
  refine carries_bind hresolved fun found => ?_
  cases found with
  | ok a =>
    simp only [rewritten, htarget]
    exact carries_ofResult (h.matchTarget_eq (target a))
  | error e => exact carries_pure (MatchResult.indeterminate e)

end References

lemma Spells.probeNode_eq (node : PolicyNode) : spelling.Carries MatchResult.canonical
    (env.probeNode node) (env'.probeNode node.canonical) := by
  cases node with
  | policy p =>
    rw [PolicyNode.canonical, probeNode, probeNode]
    exact carries_ofResult (h.matchTarget_eq p.heading.target)
  | policySet heading children =>
    rw [PolicyNode.canonical, probeNode, probeNode]
    exact carries_ofResult (h.matchTarget_eq heading.target)
  | policyRef r =>
    rw [PolicyNode.canonical, probeNode_policyRef, probeNode_policyRef]
    exact h.probeReference_eq (h.resolvePolicy_eq r) fun _ => rfl
  | policySetRef r =>
    rw [PolicyNode.canonical, probeNode_policySetRef, probeNode_policySetRef]
    exact h.probeReference_eq (h.resolvePolicySet_eq r) fun _ => rfl

section Nodes

variable (halgorithms : env.algorithms = .standard)
include halgorithms

/-- A policy set in canonical form decides as before if its children do. -/
lemma Spells.evaluateSet_eq (heading : Heading) {α : Type} {child child' : α → Child NodeEvaluation}
    {l : List α} (hhint : ∀ a, (child a).info.hint = (child' a).info.hint)
    (hevaluate : ∀ a ∈ l, spelling.Carries id (child a).evaluate (child' a).evaluate)
    (hprobe : ∀ a ∈ l, spelling.Carries MatchResult.canonical (child a).probe (child' a).probe) :
    spelling.Carries id (env.evaluateSet heading (l.map child))
      (env'.evaluateSet heading.canonical (l.map child')) := by
  refine h.whenApplicable_eq heading fun targetFailed => carries_withinSet heading.id ?_
  refine h.collecting_eq heading [] .policySet ?_
  exact h.combine_eq heading halgorithms hhint hevaluate hprobe targetFailed

lemma Spells.evaluateNode_eq {enter enter' : PolicySet → NodeEvaluation Decision}
    (henter : ∀ s, spelling.Carries id (enter s) (enter' s.canonical)) (node : PolicyNode) :
    spelling.Carries id (env.evaluateNode enter node)
      (env'.evaluateNode enter' node.canonical) := by
  induction node using PolicyNode.induction with
  | policy p =>
    rw [PolicyNode.canonical, evaluateNode, evaluateNode]
    exact h.evaluatePolicy_eq p halgorithms
  | policySet heading children ih =>
    rw [PolicyNode.canonical, PolicyNode.canonicalAll_eq_map, evaluateNode, evaluateNode,
      nodeChildren_eq_map, nodeChildren_eq_map, List.map_map]
    refine h.evaluateSet_eq halgorithms heading ?_ ?_ ?_
    · exact fun c => rfl
    · exact ih
    · exact fun c _ => h.probeNode_eq c
  | policyRef r =>
    rw [PolicyNode.canonical, evaluateNode, evaluateNode]
    exact h.follow_eq (h.resolvePolicy_eq r) fun p => h.evaluatePolicy_eq p halgorithms
  | policySetRef r =>
    rw [PolicyNode.canonical, evaluateNode, evaluateNode]
    exact h.follow_eq (h.resolvePolicySet_eq r) henter

/-- However many references may still be followed, policy sets behind them decide as before. -/
lemma Spells.enterSet_eq (budget : ℕ) (s : PolicySet) :
    spelling.Carries id (env.enterSet budget s) (env'.enterSet budget s.canonical) := by
  induction budget generalizing s with
  | zero =>
    rw [enterSet, enterSet, h.version]
    exact carries_pure _
  | succ budget ih =>
    rw [enterSet, enterSet, s.toNode_canonical]
    exact h.evaluateNode_eq halgorithms ih s.toNode

end Nodes

end PolicyDecision.Environment
