import PolicyDecision.Evaluation.PolicySet
import Mathlib.Tactic.Common

/-! The nodes that an evaluation can come to, and the evaluation of a root as that of a node. -/

namespace PolicyDecision

/-- Induction on a node of the policy tree; the children of a policy set have the property. -/
@[elab_as_elim]
theorem PolicyNode.induction {motive : PolicyNode → Prop} (policy : ∀ p, motive (.policy p))
    (policySet : ∀ h children, (∀ c ∈ children, motive c) → motive (.policySet h children))
    (policyRef : ∀ r, motive (.policyRef r)) (policySetRef : ∀ r, motive (.policySetRef r))
    (node : PolicyNode) : motive node :=
  @PolicyNode.rec motive (fun children => ∀ c ∈ children, motive c)
    policy policySet policyRef policySetRef (fun _ h => absurd h List.not_mem_nil)
    (fun _ _ hc hcs _ h => (List.mem_cons.mp h).elim (fun he => he ▸ hc) (hcs _)) node

def Root.toNode : Root → PolicyNode
  | policy p => .policy p
  | policySet s => s.toNode

/-- The nodes below a node, those behind references included. -/
inductive Reaches (repository : PolicyRepository) (start : PolicyNode) : PolicyNode → Prop
  | start : Reaches repository start start
  | child {h : Heading} {children : List PolicyNode} {c : PolicyNode}
      (parent : Reaches repository start (.policySet h children)) (mem : c ∈ children) :
      Reaches repository start c
  | policyRef {r : Reference} {p : Policy} (reference : Reaches repository start (.policyRef r))
      (found : repository.policy? r.id r.constraints = some p) :
      Reaches repository start (.policy p)
  | policySetRef {r : Reference} {s : PolicySet}
      (reference : Reaches repository start (.policySetRef r))
      (found : repository.policySet? r.id r.constraints = some s) :
      Reaches repository start s.toNode

/-- The nodes that a repository has an answer with. -/
inductive PolicyRepository.Yields (repository : PolicyRepository) : PolicyNode → Prop
  | policy {id : String} {constraints : VersionConstraints} {p : Policy}
      (found : repository.policy? id constraints = some p) : Yields repository (.policy p)
  | policySet {id : String} {constraints : VersionConstraints} {s : PolicySet}
      (found : repository.policySet? id constraints = some s) : Yields repository s.toNode

namespace Environment

variable (env : Environment)

/-- A child of a policy set, as the algorithm of the set sees it. -/
def nodeChild (enter : PolicySet → NodeEvaluation Decision) (h : Heading) (c : PolicyNode) :
    Child NodeEvaluation :=
  ⟨⟨none, h.parametersOf c.id⟩, env.evaluateNode enter c, env.probeNode c⟩

lemma nodeChildren_eq_map (enter : PolicySet → NodeEvaluation Decision) (h : Heading)
    (children : List PolicyNode) :
    env.nodeChildren enter h children = children.map (env.nodeChild enter h) := by
  induction children with
  | nil => rw [nodeChildren, List.map_nil]
  | cons c cs ih => rw [nodeChildren, ih, List.map_cons, nodeChild]

/-- The evaluation of a request begins with nothing known, nothing found and no reference open. -/
lemma evaluateRoot_eq (root : Root) :
    env.evaluateRoot root =
      (env.evaluateNode (env.enterSet env.maxReferenceDepth) root.toNode {}).1.map fun d =>
        result d (env.evaluateNode (env.enterSet env.maxReferenceDepth) root.toNode {}).2 := by
  cases root with
  | policy p =>
    change _ = Except.map _ (env.evaluateNode _ (.policy p) {}).1
    rw [evaluateNode]
    rfl
  | policySet s => rfl

end Environment

end PolicyDecision
