import PolicyDecision.Proofs.Correspondence.Node
import PolicyDecision.Proofs.Reach

/-! Nodes of the policy tree, evaluated side by side from states in the same place. -/

namespace PolicyDecision

open Stateful NodeEvaluation Environment

/-- Looks at the target of what a reference leads to. -/
def Environment.probeReference (env : Environment) {α : Type}
    (resolved : NodeEvaluation (Outcome α)) (target : α → Option Target) :
    NodeEvaluation MatchResult := do
  match ← resolved with
  | .ok a => ofResult (env.matchTarget (target a))
  | .error e => return .indeterminate e

lemma Environment.probeNode_policyRef (env : Environment) (r : Reference) :
    env.probeNode (.policyRef r) = env.probeReference (env.resolvePolicy r) (·.heading.target) := by
  rw [probeNode, probeReference]
  congr 1
  funext found
  cases found <;> rfl

lemma Environment.probeNode_policySetRef (env : Environment) (r : Reference) :
    env.probeNode (.policySetRef r) =
      env.probeReference (env.resolvePolicySet r) (·.heading.target) := by
  rw [probeNode, probeReference]
  congr 1
  funext found
  cases found <;> rfl

namespace Correspondence

variable {c c' : Correspondence} {turn : Effect → Effect} {env env' : Environment}

section References

variable {α β : Type} {R : α → β → Prop} {x : NodeEvaluation (Outcome α)}
  {y : NodeEvaluation (Outcome β)}

/-- Both look-ups fail with the same error, or they find what is related. -/
def ResolvesAlike (c : Correspondence) (R : α → β → Prop) (x : NodeEvaluation (Outcome α))
    (y : NodeEvaluation (Outcome β)) : Prop :=
  ∀ s t, c.agree s t → (∃ e, x s = (.ok (.error e), s) ∧ y t = (.ok (.error e), t)) ∨
    ∃ a b, R a b ∧ x s = (.ok (.ok a), s) ∧ y t = (.ok (.ok b), t)

/-- Whatever agrees behind a reference agrees in front of it. -/
lemma parallels_behindReference (hturn : c'.turn = c.turn) (hrestoring : c'.restoring = c.restoring)
    (hagree : ∀ s t, c.agree s t → c'.agree { s with followed := s.followed + 1 }
      { t with followed := t.followed + 1 })
    {f : α → β} {x : NodeEvaluation α} {y : NodeEvaluation β} (h : c'.Parallels f x y) :
    c.Parallels f (behindReference x) (behindReference y) := by
  intro s t hst
  obtain ⟨r, added, hknown, hx, hy⟩ := h _ _ (hagree s t hst)
  refine ⟨r, added, fun hc => hknown (hrestoring.trans hc), ?_, ?_⟩
  · simp [behindReference, hx, Progress.extended]
  · simp [behindReference, hy, Progress.extended, hturn]

lemma parallels_follow (hversion : env'.version = env.version) (h : c.ResolvesAlike R x y)
    {evaluate : α → NodeEvaluation Decision} {evaluate' : β → NodeEvaluation Decision}
    (hevaluate : ∀ a b, R a b → c.Parallels (Decision.turned c.turn)
      (behindReference (evaluate a)) (behindReference (evaluate' b))) :
    c.Parallels (Decision.turned c.turn) (env.follow x evaluate) (env'.follow y evaluate') := by
  intro s t hst
  rcases h s t hst with ⟨e, hx, hy⟩ | ⟨a, b, hab, hx, hy⟩
  · obtain ⟨r, added, hknown, hs, ht⟩ :=
      parallels_failed (c := c) env.version none e s t hst
    refine ⟨r, added, hknown, ?_, ?_⟩
    · rw [follow, bind_apply, hx]
      exact hs
    · rw [follow, bind_apply, hy, hversion]
      exact ht
  · obtain ⟨r, added, hknown, hs, ht⟩ := hevaluate a b hab s t hst
    refine ⟨r, added, hknown, ?_, ?_⟩
    · rw [follow, bind_apply, hx]
      exact hs
    · rw [follow, bind_apply, hy]
      exact ht

lemma parallels_probeReference (h : c.ResolvesAlike R x y) {target : α → Option Target}
    {target' : β → Option Target}
    (htarget : ∀ a b, R a b → env'.matchTarget (target' b) = env.matchTarget (target a)) :
    c.Parallels id (env.probeReference x target) (env'.probeReference y target') := by
  intro s t hst
  rcases h s t hst with ⟨e, hx, hy⟩ | ⟨a, b, hab, hx, hy⟩
  · exact ⟨.ok (.indeterminate e), {}, fun _ => rfl,
      by rw [probeReference, bind_apply, hx, Progress.extended_empty]; rfl,
      by rw [probeReference, bind_apply, hy, Yield.turned_empty, Progress.extended_empty]; rfl⟩
  · refine ⟨env.matchTarget (target a), {}, fun _ => rfl, ?_, ?_⟩
    · rw [probeReference, bind_apply, hx, Progress.extended_empty]
      rfl
    · rw [probeReference, bind_apply, hy, Yield.turned_empty, Progress.extended_empty]
      simp only [htarget a b hab, ofResult_apply]
      cases env.matchTarget (target a) <;> rfl

end References

lemma parallels_matchTarget (target : Option Target) : c.Parallels id
    (ofResult (env.matchTarget target)) (ofResult (env.matchTarget target)) := by
  have h := parallels_ofResult (c := c) id (env.matchTarget target)
  cases hm : env.matchTarget target <;> rw [hm] at h <;> exact h

end Correspondence

open Correspondence

/-- Nodes of the same shape whose policies and policy sets are alike. -/
inductive NodeAlike (turn : Effect → Effect) (describes : ChildInfo → ChildInfo → Prop)
    (env env' : Environment) : PolicyNode → PolicyNode → Prop
  | policy {p p' : Policy}
      (heading : HeadingAlike turn describes env env' p.definitions p'.definitions p.heading
        p'.heading)
      (rules : List.Forall₂ (fun r r' => RuleAlike turn env env' p p' r r' ∧
        describes (env.ruleChild p r).info (env'.ruleChild p' r').info) p.rules p'.rules) :
      NodeAlike turn describes env env' (.policy p) (.policy p')
  | policySet {h h' : Heading} {children children' : List PolicyNode}
      (heading : HeadingAlike turn describes env env' [] [] h h') (id : h'.id = h.id)
      (described : List.Forall₂ (fun c c' =>
        describes ⟨none, h.parametersOf c.id⟩ ⟨none, h'.parametersOf c'.id⟩) children children')
      (alike : List.Forall₂ (NodeAlike turn describes env env') children children') :
      NodeAlike turn describes env env' (.policySet h children) (.policySet h' children')
  | policyRef (r : Reference) : NodeAlike turn describes env env' (.policyRef r) (.policyRef r)
  | policySetRef (r : Reference) :
      NodeAlike turn describes env env' (.policySetRef r) (.policySetRef r)

/-- The limits are the same, and the same references lead to what is alike. -/
structure RepositoryAlike (turn : Effect → Effect) (describes : ChildInfo → ChildInfo → Prop)
    (env env' : Environment) : Prop where
  version : env'.version = env.version
  maxReferenceDepth : env'.maxReferenceDepth = env.maxReferenceDepth
  policy : ∀ id constraints, Option.Rel
    (fun p p' => NodeAlike turn describes env env' (.policy p) (.policy p'))
    (env.repository.policy? id constraints) (env'.repository.policy? id constraints)
  policySet : ∀ id constraints, Option.Rel
    (fun s s' => NodeAlike turn describes env env' s.toNode s'.toNode)
    (env.repository.policySet? id constraints) (env'.repository.policySet? id constraints)

namespace RepositoryAlike

variable {turn : Effect → Effect} (hturn : Function.Injective turn)
  {describes : ChildInfo → ChildInfo → Prop} {env env' : Environment}

lemma resolvesAlike_policy (h : RepositoryAlike turn describes env env') (r : Reference) :
    (between hturn Eq).ResolvesAlike
      (fun p p' => NodeAlike turn describes env env' (.policy p) (.policy p'))
      (env.resolvePolicy r) (env'.resolvePolicy r) := by
  intro s t hst
  obtain ⟨-, hfollowed⟩ := Prod.mk.inj hst
  rw [resolvePolicy_apply, resolvePolicy_apply, h.maxReferenceDepth, ← hfollowed]
  have hfound := h.policy r.id r.constraints
  generalize env.repository.policy? r.id r.constraints = x at hfound
  generalize env'.repository.policy? r.id r.constraints = y at hfound
  split
  · exact Or.inl ⟨_, rfl, rfl⟩
  · cases hfound with
    | none => exact Or.inl ⟨_, rfl, rfl⟩
    | some hp => exact Or.inr ⟨_, _, hp, rfl, rfl⟩

lemma resolvesAlike_policySet (h : RepositoryAlike turn describes env env') (r : Reference) :
    (between hturn Eq).ResolvesAlike
      (fun s s' => NodeAlike turn describes env env' s.toNode s'.toNode)
      (env.resolvePolicySet r) (env'.resolvePolicySet r) := by
  intro s t hst
  obtain ⟨henclosing, hfollowed⟩ := Prod.mk.inj hst
  rw [resolvePolicySet_apply, resolvePolicySet_apply, h.maxReferenceDepth, ← hfollowed,
    ← henclosing]
  have hfound := h.policySet r.id r.constraints
  generalize env.repository.policySet? r.id r.constraints = x at hfound
  generalize env'.repository.policySet? r.id r.constraints = y at hfound
  split
  · exact Or.inl ⟨_, rfl, rfl⟩
  · split
    · exact Or.inl ⟨_, rfl, rfl⟩
    · cases hfound with
      | none => exact Or.inl ⟨_, rfl, rfl⟩
      | some hp => exact Or.inr ⟨_, _, hp, rfl, rfl⟩

/-- A probe of what a reference leads to is one of its target. -/
lemma parallels_probeNode (h : RepositoryAlike turn describes env env') {node node' : PolicyNode}
    (hnode : NodeAlike turn describes env env' node node') :
    (between hturn Eq).Parallels id (env.probeNode node) (env'.probeNode node') := by
  cases hnode with
  | policy heading _ =>
    rw [probeNode, probeNode, heading.target]
    exact parallels_matchTarget _
  | policySet heading _ _ _ =>
    rw [probeNode, probeNode, heading.target]
    exact parallels_matchTarget _
  | policyRef r =>
    rw [probeNode_policyRef, probeNode_policyRef]
    refine parallels_probeReference (h.resolvesAlike_policy hturn r) fun p p' hp => ?_
    cases hp with
    | policy heading _ => exact heading.target
  | policySetRef r =>
    rw [probeNode_policySetRef, probeNode_policySetRef]
    refine parallels_probeReference (h.resolvesAlike_policySet hturn r) fun s s' hs => ?_
    cases hs with
    | policySet heading _ _ _ => exact heading.target

/-- Alike nodes are evaluated alike if alike policy sets behind references are. -/
lemma parallels_evaluateNode (h : RepositoryAlike turn describes env env')
    {enter enter' : PolicySet → NodeEvaluation Decision}
    (henter : ∀ s s' : PolicySet, NodeAlike turn describes env env' s.toNode s'.toNode →
      (between hturn Eq).Parallels (Decision.turned turn) (enter s) (enter' s'))
    (node : PolicyNode) {node' : PolicyNode}
    (hnode : NodeAlike turn describes env env' node node') :
    (between hturn Eq).Parallels (Decision.turned turn) (env.evaluateNode enter node)
      (env'.evaluateNode enter' node') := by
  have hdeeper : ∀ s t : Progress, (between hturn Eq).agree s t → (between hturn Eq).agree
      { s with followed := s.followed + 1 } { t with followed := t.followed + 1 } := by
    intro s t hst
    obtain ⟨henclosing, hfollowed⟩ := Prod.mk.inj hst
    exact Prod.ext henclosing (congrArg (· + 1) hfollowed)
  induction node using PolicyNode.induction generalizing node' with
  | policy p =>
    cases hnode with
    | policy heading rules =>
      rw [evaluateNode, evaluateNode]
      exact parallels_evaluatePolicy heading rules
  | policySet heading children ih =>
    cases hnode with
    | policySet hheading hid described alike =>
      rw [evaluateNode, evaluateNode, nodeChildren_eq_map, nodeChildren_eq_map]
      refine parallels_evaluateSet (k := between hturn Eq) rfl rfl ?_ hheading ?_
      · intro s t hst
        obtain ⟨henclosing, hfollowed⟩ := Prod.mk.inj hst
        exact Prod.ext (by simp only [hid, henclosing]) hfollowed
      · rw [List.forall₂_map_left_iff, List.forall₂_map_right_iff]
        refine List.forall₂_iff_zip.mpr ⟨alike.length_eq, fun {c c'} hzip => ?_⟩
        have hc := List.forall₂_zip alike hzip
        exact ⟨List.forall₂_zip described hzip, ih c (List.of_mem_zip hzip).1 hc,
          h.parallels_probeNode hturn hc⟩
  | policyRef r =>
    cases hnode with
    | policyRef =>
      rw [evaluateNode, evaluateNode]
      refine parallels_follow h.version (h.resolvesAlike_policy hturn r) fun p p' hp => ?_
      refine parallels_behindReference rfl rfl hdeeper ?_
      cases hp with
      | policy heading rules => exact parallels_evaluatePolicy heading rules
  | policySetRef r =>
    cases hnode with
    | policySetRef =>
      rw [evaluateNode, evaluateNode]
      refine parallels_follow h.version (h.resolvesAlike_policySet hturn r) fun s s' hs => ?_
      exact parallels_behindReference rfl rfl hdeeper (henter s s' hs)

/-- Alike policy sets are entered alike, however many references may still be followed. -/
lemma parallels_enterSet (h : RepositoryAlike turn describes env env') (budget : ℕ)
    (s s' : PolicySet) (hs : NodeAlike turn describes env env' s.toNode s'.toNode) :
    (between hturn Eq).Parallels (Decision.turned turn) (env.enterSet budget s)
      (env'.enterSet budget s') := by
  induction budget generalizing s s' with
  | zero =>
    rw [enterSet, enterSet, h.version]
    have hpure := parallels_pure (c := between hturn Eq) (Decision.turned turn)
      (env.version.indeterminate none)
    rwa [← Version.indeterminate_turned] at hpure
  | succ budget ih =>
    rw [enterSet, enterSet]
    exact h.parallels_evaluateNode hturn ih s.toNode hs

end RepositoryAlike

end PolicyDecision
