import PolicyDecision.Proofs.Correspondence.Same

/-! The evaluation of a child of a policy set in terms of itself. The bound on its depth is not
needed, for it is always the number of references that may still be followed. -/

namespace PolicyDecision.Environment

open Stateful NodeEvaluation Correspondence

variable (env : Environment)

/-- A child of a policy set that evaluates itself. -/
def evaluatedChild (h : Heading) (c : PolicyNode) : Child NodeEvaluation :=
  ⟨⟨none, h.parametersOf c.id⟩, env.evaluateChild c, env.probeNode c⟩

lemma evaluateChild_apply (node : PolicyNode) (s : Progress) : env.evaluateChild node s =
    env.evaluateNode (env.enterSet (env.maxReferenceDepth - s.followed)) node s := rfl

/-- Between policies, where so many references have been followed. -/
def behind (followed : ℕ) : Correspondence :=
  between Function.injective_id fun p q => p = q ∧ p.2 = followed

lemma parallels_evaluateChild (followed : ℕ) (node : PolicyNode) : (behind followed).Parallels id
    (env.evaluateNode (env.enterSet (env.maxReferenceDepth - followed)) node)
      (env.evaluateChild node) := by
  rintro s t ⟨hst, hfollowed⟩
  have ht : t.followed = followed := (congrArg Prod.snd hst).symm.trans hfollowed
  rw [evaluateChild_apply, ht]
  exact env.parallels_self (env.maxReferenceDepth - followed) node s t hst

theorem evaluateChild_policy (p : Policy) :
    env.evaluateChild (.policy p) = env.evaluatePolicy p := by
  funext s
  rw [evaluateChild_apply, evaluateNode]

theorem evaluateChild_policySet (h : Heading) (children : List PolicyNode) :
    env.evaluateChild (.policySet h children) =
      env.evaluateSet h (children.map (env.evaluatedChild h)) := by
  funext s
  rw [evaluateChild_apply, evaluateNode, nodeChildren_eq_map]
  have hchildren : List.Forall₂ ((behind s.followed).ChildAlike Eq)
      (children.map (env.nodeChild (env.enterSet (env.maxReferenceDepth - s.followed)) h))
      (children.map (env.evaluatedChild h)) := by
    rw [List.forall₂_map_left_iff, List.forall₂_map_right_iff]
    refine List.forall₂_same.mpr fun c _ =>
      ⟨rfl, (parallels_decision rfl).mpr (env.parallels_evaluateChild s.followed c), ?_⟩
    rintro t t' ⟨htt', -⟩
    exact RepositoryAlike.same.parallels_probeNode Function.injective_id (.same c) t t' htt'
  have hwithin : ∀ t t' : Progress, (behind s.followed).agree t t' →
      (behind s.followed).agree { t with enclosing := h.id :: t.enclosing }
        { t' with enclosing := h.id :: t'.enclosing } := by
    rintro t t' ⟨htt', ht⟩
    obtain ⟨henclosing, hfollowed⟩ := Prod.mk.inj htt'
    exact ⟨Prod.ext (congrArg (h.id :: ·) henclosing) hfollowed, ht⟩
  obtain ⟨r, added, -, hleft, hright⟩ := parallels_evaluateSet (c := behind s.followed) rfl rfl
    hwithin (HeadingAlike.same [] h) hchildren s s ⟨rfl, rfl⟩
  rw [hleft, hright]
  cases r <;> simp [behind, between, Except.map]

theorem evaluateChild_policyRef (r : Reference) :
    env.evaluateChild (.policyRef r) = env.follow (env.resolvePolicy r) env.evaluatePolicy := by
  funext s
  rw [evaluateChild_apply, evaluateNode]

theorem evaluateChild_policySetRef (r : Reference) : env.evaluateChild (.policySetRef r) =
    env.follow (env.resolvePolicySet r) env.evaluatePolicySet := by
  funext s
  rw [evaluateChild_apply, evaluateNode, follow_apply, follow_apply, resolvePolicySet_apply]
  by_cases hdepth : env.maxReferenceDepth ≤ s.followed
  · simp only [if_pos hdepth]
  · -- A reference that is followed leaves one less to follow, on both sides.
    have hbudget : env.maxReferenceDepth - s.followed =
        env.maxReferenceDepth - (s.followed + 1) + 1 := by omega
    simp only [if_neg hdepth]
    split
    · rename_i p s' hp
      have hs' : s' = s := (congrArg Prod.snd hp).symm
      rw [hs', behindReference, behindReference, hbudget, enterSet]
      rfl
    · rfl
    · rfl

/-- The evaluation of a root is that of a child of nothing. -/
lemma evaluateRoot_eq_evaluateChild (root : Root) : env.evaluateRoot root =
    (env.evaluateChild root.toNode {}).1.map fun d =>
      result d (env.evaluateChild root.toNode {}).2 :=
  env.evaluateRoot_eq root

end PolicyDecision.Environment
