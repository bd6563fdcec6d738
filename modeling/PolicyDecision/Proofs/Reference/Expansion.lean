import PolicyDecision.Combining.Registry
import PolicyDecision.Proofs.Reach
import Mathlib.Data.List.Forall2

/-! Policy trees in which every reference is replaced by what it leads to, and the paths through a
tree and through its references. -/

namespace PolicyDecision

/-- The second node is the first with everything that its references lead to in their place. -/
inductive Expands (repository : PolicyRepository) : PolicyNode → PolicyNode → Prop
  | policy (p : Policy) : Expands repository (.policy p) (.policy p)
  | policySet {h : Heading} {children children' : List PolicyNode}
      (expanded : List.Forall₂ (Expands repository) children children') :
      Expands repository (.policySet h children) (.policySet h children')
  | policyRef {r : Reference} {p : Policy}
      (found : repository.policy? r.id r.constraints = some p) :
      Expands repository (.policyRef r) (.policy p)
  | policySetRef {r : Reference} {s : PolicySet} {node : PolicyNode}
      (found : repository.policySet? r.id r.constraints = some s)
      (expanded : Expands repository s.toNode node) : Expands repository (.policySetRef r) node

/-- A node without references. -/
inductive PolicyNode.Inline : PolicyNode → Prop
  | policy (p : Policy) : Inline (.policy p)
  | policySet {h : Heading} {children : List PolicyNode} (inline : ∀ c ∈ children, Inline c) :
      Inline (.policySet h children)

/-- A node below another, with the ids of the policy sets around it, the innermost first, and the
number of references that lead to it. -/
inductive Path (repository : PolicyRepository) (start : PolicyNode) :
    List String → ℕ → PolicyNode → Prop
  | start : Path repository start [] 0 start
  | child {enclosing : List String} {followed : ℕ} {h : Heading} {children : List PolicyNode}
      {c : PolicyNode} (parent : Path repository start enclosing followed (.policySet h children))
      (mem : c ∈ children) : Path repository start (h.id :: enclosing) followed c
  | policyRef {enclosing : List String} {followed : ℕ} {r : Reference} {p : Policy}
      (reference : Path repository start enclosing followed (.policyRef r))
      (found : repository.policy? r.id r.constraints = some p) :
      Path repository start enclosing (followed + 1) (.policy p)
  | policySetRef {enclosing : List String} {followed : ℕ} {r : Reference} {s : PolicySet}
      (reference : Path repository start enclosing followed (.policySetRef r))
      (found : repository.policySet? r.id r.constraints = some s) :
      Path repository start enclosing (followed + 1) s.toNode

variable {repository : PolicyRepository}

/-- Induction on an expansion; the children of an expanded policy set have the property. -/
@[elab_as_elim]
theorem Expands.induction
    {motive : ∀ node node', Expands repository node node' → Prop}
    (policy : ∀ p, motive (.policy p) (.policy p) (.policy p))
    (policySet : ∀ h children children' (expanded : List.Forall₂ (Expands repository) children
      children'), List.Forall₂ (fun c c' => ∃ expanded, motive c c' expanded) children children' →
        motive (.policySet h children) (.policySet h children') (.policySet expanded))
    (policyRef : ∀ r p (found : repository.policy? r.id r.constraints = some p),
      motive (.policyRef r) (.policy p) (.policyRef found))
    (policySetRef : ∀ r (s : PolicySet) node
      (found : repository.policySet? r.id r.constraints = some s)
      (expanded : Expands repository s.toNode node), motive s.toNode node expanded →
        motive (.policySetRef r) node (.policySetRef found expanded))
    {node node' : PolicyNode} (h : Expands repository node node') : motive node node' h :=
  @Expands.rec repository motive
    (fun children children' _ =>
      List.Forall₂ (fun c c' => ∃ expanded, motive c c' expanded) children children')
    policy (fun expanded ih => policySet _ _ _ expanded ih) (fun found => policyRef _ _ found)
    (fun found expanded ih => policySetRef _ _ _ found expanded ih) .nil
    (fun h _ ih ihs => .cons ⟨h, ih⟩ ihs) _ _ h

/-- No reference is left. -/
theorem Expands.inline {node node' : PolicyNode} (h : Expands repository node node') :
    node'.Inline := by
  induction h using Expands.induction with
  | policy p => exact .policy p
  | policySet h children children' _ ih =>
    refine .policySet fun c' hc' => ?_
    obtain ⟨i, hi, rfl⟩ := List.getElem_of_mem hc'
    exact (ih.get (ih.length_eq ▸ hi) hi).2
  | policyRef r p _ => exact .policy p
  | policySetRef r s node _ _ ih => exact ih

/-- What a reference leads to is determined, and so is the expanded node. -/
theorem Expands.unique {node left right : PolicyNode} (hleft : Expands repository node left)
    (hright : Expands repository node right) : left = right := by
  induction hleft using Expands.induction generalizing right with
  | policy p =>
    cases hright
    rfl
  | policySet h children children' hleft ih =>
    cases hright with
    | @policySet _ _ children'' expanded =>
      congr 1
      clear hleft
      induction ih generalizing children'' with
      | nil =>
        cases expanded
        rfl
      | cons hc _ ih =>
        cases expanded with
        | cons head tail => rw [hc.2 head, ih tail]
  | policyRef r p found =>
    cases hright with
    | policyRef found' =>
      cases found.symm.trans found'
      rfl
  | policySetRef r s node found _ ih =>
    cases hright with
    | policySetRef found' expanded =>
      cases found.symm.trans found'
      exact ih expanded

lemma Path.reaches {start node : PolicyNode} {enclosing : List String} {followed : ℕ}
    (h : Path repository start enclosing followed node) : Reaches repository start node := by
  induction h with
  | start => exact .start
  | child _ mem ih => exact ih.child mem
  | policyRef _ found ih => exact ih.policyRef found
  | policySetRef _ found ih => exact ih.policySetRef found

end PolicyDecision
