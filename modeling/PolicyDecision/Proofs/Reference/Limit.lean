import PolicyDecision.Proofs.Attributes.Noninterference
import PolicyDecision.Proofs.Reference.Opened
import PolicyDecision.Proofs.Reference.Transparency

/-! The limit on references does not matter once it is greater than the number of ids under which
policy sets are stored: the check for cycles alone bounds how far references lead. -/

namespace PolicyDecision

open Stateful NodeEvaluation Environment Correspondence

namespace Environment

/-- The environment with another limit on references. -/
def limited (env : Environment) (limit : ℕ) : Environment :=
  { env with maxReferenceDepth := limit }

variable (env : Environment) (limit : ℕ)

lemma answersAlike_limited : AnswersAlike (fun _ => True) env (env.limited limit) :=
  ⟨rfl, rfl, fun _ _ => rfl, rfl⟩

lemma headingAlike_limited (definitions : List VariableDefinition) (h : Heading) :
    HeadingAlike id Eq env (env.limited limit) definitions definitions h h where
  version := rfl
  collectPolicies := rfl
  identifier := ⟨rfl, rfl⟩
  target := (env.answersAlike_limited limit).matchTarget_eq fun _ _ => trivial
  algorithm := .same _ _ _
  duties e known := by
    rw [id, (env.answersAlike_limited limit).evaluateDuties_eq (fun _ _ => trivial) e
      fun _ _ => trivial]
    exact (map_turned_id _).symm

lemma ruleAlike_limited (p : Policy) (r : Rule) :
    RuleAlike id env (env.limited limit) p p r r where
  effect := rfl
  target := (env.answersAlike_limited limit).matchTarget_eq fun _ _ => trivial
  condition := by
    cases r.condition with
    | none => exact .none
    | some e =>
      exact .some fun known => congrFun ((env.answersAlike_limited limit).evaluateCondition_eq
        (fun _ _ => trivial) fun _ _ => trivial) known
  duties known := by
    rw [(env.answersAlike_limited limit).evaluateDuties_eq (fun _ _ => trivial) r.effect
      fun _ _ => trivial]
    exact (map_turned_id _).symm

/-- Both evaluations are in the same given place. -/
def inPlace (enclosing : List String) (followed : ℕ) : Correspondence :=
  between Function.injective_id fun p q => p = (enclosing, followed) ∧ q = p

variable {enclosing : List String} {followed : ℕ} {node : PolicyNode}

lemma inPlace_agree {s t : Progress} (h : (inPlace enclosing followed).agree s t) :
    (s.enclosing = enclosing ∧ s.followed = followed) ∧
      t.enclosing = enclosing ∧ t.followed = followed := by
  obtain ⟨hs, ht⟩ := h
  exact ⟨Prod.mk.inj hs, Prod.mk.inj (ht.trans hs)⟩

lemma inPlace_deeper {s t : Progress} (h : (inPlace enclosing followed).agree s t) :
    (inPlace enclosing (followed + 1)).agree { s with followed := s.followed + 1 }
      { t with followed := t.followed + 1 } := by
  obtain ⟨⟨hs, hs'⟩, ht, ht'⟩ := inPlace_agree h
  simp [inPlace, between, hs, hs', ht, ht']

lemma inPlace_within (id : String) {s t : Progress} (h : (inPlace enclosing followed).agree s t) :
    (inPlace (id :: enclosing) followed).agree { s with enclosing := id :: s.enclosing }
      { t with enclosing := id :: t.enclosing } := by
  obtain ⟨⟨hs, hs'⟩, ht, ht'⟩ := inPlace_agree h
  simp [inPlace, between, hs, hs', ht, ht']

lemma parallels_behind_inPlace {x y : NodeEvaluation Decision}
    (h : (inPlace enclosing (followed + 1)).Parallels id x y) :
    (inPlace enclosing followed).Parallels id (behindReference x) (behindReference y) :=
  parallels_behindReference (by rfl) (by rfl) (fun _ _ => inPlace_deeper) h

lemma parallels_policy_limited (p : Policy) :
    (inPlace enclosing followed).Parallels id (env.evaluatePolicy p)
      ((env.limited limit).evaluatePolicy p) :=
  (parallels_decision rfl).mp (parallels_evaluatePolicy (env.headingAlike_limited limit _ _)
    (List.forall₂_same.mpr fun r _ => ⟨env.ruleAlike_limited limit p r, rfl⟩))

/-- Both look-ups end in the same way, and what they find has a property. -/
lemma resolvesAlike_of_found {c : Correspondence} {α : Type} {x y : NodeEvaluation (Outcome α)}
    {P : α → Prop} (h : ∀ s t, c.agree s t → ∃ found : Outcome α,
      x s = (.ok found, s) ∧ y t = (.ok found, t) ∧ ∀ a, found = .ok a → P a) :
    c.ResolvesAlike (fun a b => a = b ∧ P a) x y := by
  intro s t hst
  obtain ⟨found, hx, hy, hfound⟩ := h s t hst
  cases found with
  | error e => exact Or.inl ⟨e, hx, hy⟩
  | ok a => exact Or.inr ⟨a, a, ⟨rfl, hfound a rfl⟩, hx, hy⟩

variable {env limit} {ids : Finset String} {opened : List String}

section Resolution

variable (hlimit : ids.card < env.maxReferenceDepth) (hlimit' : ids.card < limit)
include hlimit hlimit'

lemma resolvesAlike_policy_limited {r : Reference}
    (hopen : Open ids opened (.policyRef r) enclosing followed) :
    (inPlace enclosing followed).ResolvesAlike (fun p p' => p = p' ∧ True) (env.resolvePolicy r)
      ((env.limited limit).resolvePolicy r) := by
  refine resolvesAlike_of_found fun s t hst => ?_
  obtain ⟨⟨-, hs⟩, -, ht⟩ := inPlace_agree hst
  have hdepth : ¬ env.maxReferenceDepth ≤ s.followed := by
    rw [hs]
    exact Nat.not_le.mpr (hopen.followed_lt nofun hlimit)
  have hdepth' : ¬ (env.limited limit).maxReferenceDepth ≤ t.followed := by
    rw [ht]
    exact Nat.not_le.mpr (hopen.followed_lt nofun hlimit')
  rw [resolvePolicy_apply, resolvePolicy_apply, if_neg hdepth, if_neg hdepth']
  exact ⟨_, rfl, rfl, fun _ _ => trivial⟩

/-- What is found behind a reference to a policy set opens its id. -/
lemma resolvesAlike_policySet_limited (hkeeps : env.repository.Keeps ids) {r : Reference}
    (hopen : Open ids opened (.policySetRef r) enclosing followed) :
    (inPlace enclosing followed).ResolvesAlike
      (fun set set' => set = set' ∧
        Open ids (r.id :: opened) set.toNode enclosing (followed + 1))
      (env.resolvePolicySet r) ((env.limited limit).resolvePolicySet r) := by
  refine resolvesAlike_of_found fun s t hst => ?_
  obtain ⟨⟨henclosing, hs⟩, henclosing', ht⟩ := inPlace_agree hst
  have hdepth : ¬ env.maxReferenceDepth ≤ s.followed := by
    rw [hs]
    exact Nat.not_le.mpr (hopen.followed_lt nofun hlimit)
  have hdepth' : ¬ (env.limited limit).maxReferenceDepth ≤ t.followed := by
    rw [ht]
    exact Nat.not_le.mpr (hopen.followed_lt nofun hlimit')
  rw [resolvePolicySet_apply, resolvePolicySet_apply, if_neg hdepth, if_neg hdepth', henclosing,
    henclosing']
  refine ⟨_, rfl, rfl, fun set hset => ?_⟩
  split at hset
  · cases hset
  · rename_i hcycle
    split at hset <;> cases hset
    rename_i hfound
    exact hopen.policySetRef hkeeps (fun h => hcycle (List.contains_iff_mem.mpr h)) hfound

lemma parallels_probe_limited (hkeeps : env.repository.Keeps ids)
    (hopen : Open ids opened node enclosing followed) :
    (inPlace enclosing followed).Parallels id (env.probeNode node)
      ((env.limited limit).probeNode node) := by
  have htarget : ∀ target, (env.limited limit).matchTarget target = env.matchTarget target :=
    fun target => (env.answersAlike_limited limit).matchTarget_eq fun _ _ => trivial
  cases node with
  | policy p =>
    rw [probeNode, probeNode, htarget]
    exact parallels_matchTarget _
  | policySet h children =>
    rw [probeNode, probeNode, htarget]
    exact parallels_matchTarget _
  | policyRef r =>
    rw [probeNode_policyRef, probeNode_policyRef]
    refine parallels_probeReference (resolvesAlike_policy_limited hlimit hlimit' hopen) ?_
    rintro p _ ⟨rfl, -⟩
    exact htarget _
  | policySetRef r =>
    rw [probeNode_policySetRef, probeNode_policySetRef]
    refine parallels_probeReference
      (resolvesAlike_policySet_limited hlimit hlimit' hkeeps hopen) ?_
    rintro set _ ⟨rfl, -⟩
    exact htarget _

/-- A node is evaluated in the same way with both limits. The induction is on the number of ids that
are not open yet, and within one policy set on the tree. -/
theorem parallels_evaluateChild_limited (hkeeps : env.repository.Keeps ids)
    (hopen : Open ids opened node enclosing followed) :
    (inPlace enclosing followed).Parallels id (env.evaluateChild node)
      ((env.limited limit).evaluateChild node) := by
  induction hleft : ids.card - opened.length using Nat.strong_induction_on
    generalizing opened node enclosing followed with
  | h left ih =>
  subst hleft
  induction node using PolicyNode.induction generalizing enclosing with
  | policy p =>
    rw [evaluateChild_policy, evaluateChild_policy]
    exact env.parallels_policy_limited limit p
  | policySet h children ihchildren =>
    rw [evaluateChild_policySet, evaluateChild_policySet]
    refine (parallels_decision rfl).mp (parallels_evaluateSet (c := inPlace enclosing followed)
      (k := inPlace (h.id :: enclosing) followed) rfl rfl (fun _ _ => inPlace_within h.id)
      (env.headingAlike_limited limit [] h) ?_)
    rw [List.forall₂_map_left_iff, List.forall₂_map_right_iff]
    refine List.forall₂_same.mpr fun c hc => ⟨rfl, (parallels_decision rfl).mpr ?_, ?_⟩
    · exact ihchildren c hc (hopen.child c)
    · exact parallels_probe_limited hlimit hlimit' hkeeps (hopen.child c)
  | policyRef r =>
    rw [evaluateChild_policyRef, evaluateChild_policyRef]
    refine (parallels_decision rfl).mp (parallels_follow rfl
      (resolvesAlike_policy_limited hlimit hlimit' hopen) ?_)
    rintro p _ ⟨rfl, -⟩
    exact (parallels_decision rfl).mpr
      (parallels_behind_inPlace (env.parallels_policy_limited limit p))
  | policySetRef r =>
    rw [evaluateChild_policySetRef, evaluateChild_policySetRef]
    refine (parallels_decision rfl).mp (parallels_follow rfl
      (resolvesAlike_policySet_limited hlimit hlimit' hkeeps hopen) ?_)
    rintro set _ ⟨rfl, hset⟩
    refine (parallels_decision rfl).mpr (parallels_behind_inPlace ?_)
    have hlength := hset.length_le
    rw [List.length_cons] at hlength
    exact ih _ (by rw [List.length_cons]; omega) hset rfl

/-- Neither limit makes a difference to the result. -/
theorem evaluateRoot_limited (hkeeps : env.repository.Keeps ids) (root : Root) :
    (env.limited limit).evaluateRoot root = env.evaluateRoot root := by
  obtain ⟨r, added, -, hleft, hright⟩ := parallels_evaluateChild_limited hlimit hlimit' hkeeps
    (Open.start ids root.toNode) {} {} ⟨rfl, rfl⟩
  rw [evaluateRoot_eq_evaluateChild, evaluateRoot_eq_evaluateChild, hleft, hright]
  cases r <;> simp [inPlace, between, Except.map]

end Resolution

end Environment

namespace DecisionPoint

/-- The decision point with another limit on references. -/
def limited (p : DecisionPoint) (limit : ℕ) : DecisionPoint :=
  { p with configuration := { p.configuration with maxReferenceDepth := limit } }

/-- The references to policy sets that are open at any moment have different ids. Where the limit is
greater than the number of ids under which policy sets are stored, this is what bounds them: whatever
cycles the references form, none is refused for its depth, and a greater limit changes no result. -/
theorem references_bounded (p : DecisionPoint) {store : PolicyStore} (hstore : store.Filled)
    (hrepository : p.repository = store.toRepository) (now : Calendar.DateTime) (r : Request) :
    (∀ opened node s, (p.environment now r).StandsAt p.root opened node s → opened.Nodup) ∧
      (store.policySetIds.card < p.configuration.maxReferenceDepth →
        (∀ node s, (p.environment now r).AsksAbout p.root node s →
          ∀ id limit, (p.environment now r).refusal? node s ≠ some (.referenceTooDeep id limit)) ∧
        ∀ limit, store.policySetIds.card < limit →
          (p.limited limit).evaluate now r = p.evaluate now r) := by
  have hkeeps : ∀ r, (p.environment now r).repository.Keeps store.policySetIds := by
    intro r
    change p.repository.Keeps _
    rw [hrepository]
    exact hstore.keeps
  refine ⟨fun opened node s h => (h.isOpen (hkeeps r)).nodup, fun hlimit => ⟨?_, ?_⟩⟩
  · intro node s h
    exact h.refusal?_ne_tooDeep (hkeeps r) hlimit
  · intro limit hlimit'
    have hpart : (p.limited limit).evaluatePart now = p.evaluatePart now := by
      funext part
      cases part with
      | error e => rfl
      | ok individual =>
        have hroot := evaluateRoot_limited hlimit hlimit' (hkeeps individual) p.root
        exact congrArg (· >>= fun result =>
          pure { result with attributes := individual.returned }) hroot
    rw [evaluate, evaluate, hpart]

/-- A policy set around a reference to another. -/
def linking (id other : String) : PolicySet where
  heading := { id, algorithm := "overrides" }
  children := [.policySetRef { id := other }]

/-- Two policy sets that refer to each other. -/
def circularStore : PolicyStore :=
  (PolicyStore.addPolicySet {} (linking "left" "right")).addPolicySet (linking "right" "left")

/-- A third policy set refers to one of them. Three references may be followed. -/
def circle : DecisionPoint where
  root := .policySet (linking "root" "left")
  repository := circularStore.toRepository
  libraries := ⟨.empty, AlgorithmRegistry.empty.register "overrides"
    StandardAlgorithm.denyOverrides.algorithm⟩
  source := none
  configuration := { maxReferenceDepth := 3 }

theorem references_bounded_circle : circularStore.Filled ∧
    circle.repository = circularStore.toRepository ∧
    circularStore.policySetIds.card < circle.configuration.maxReferenceDepth ∧
    (circle.evaluate noon circle.request).map (List.map (·.status)) =
      .ok [.ofError (.referenceCycle "left")] ∧
    ∀ limit, circularStore.policySetIds.card < limit →
      (circle.limited limit).evaluate noon circle.request = circle.evaluate noon circle.request := by
  have hstore : circularStore.Filled := (PolicyStore.Filled.empty.policySet _).policySet _
  have hlimit : circularStore.policySetIds.card < circle.configuration.maxReferenceDepth := by
    decide
  obtain ⟨-, hbounded⟩ := references_bounded circle hstore rfl noon circle.request
  exact ⟨hstore, rfl, hlimit, by decide +kernel, (hbounded hlimit).2⟩

end DecisionPoint
end PolicyDecision
