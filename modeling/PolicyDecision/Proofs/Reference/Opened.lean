import PolicyDecision.Proofs.Independence
import PolicyDecision.Proofs.Validation.Checks
import PolicyDecision.Proofs.Visit.Tree
import Mathlib.Data.Finset.Card

/-! The references to policy sets that are open in the course of an evaluation. Their ids are kept
apart by the check for cycles, so that a store bounds how many there can be. -/

namespace PolicyDecision

open Stateful NodeEvaluation

section Store

/-- The stores that come about by adding policies and policy sets. -/
inductive PolicyStore.Filled : PolicyStore → Prop
  | empty : Filled {}
  | policy {store : PolicyStore} (filled : Filled store) (p : Policy) : Filled (store.addPolicy p)
  | policySet {store : PolicyStore} (filled : Filled store) (s : PolicySet) :
      Filled (store.addPolicySet s)

/-- The repository answers only with policy sets of the ids that it is asked for, and only for some
of the given ids. -/
def PolicyRepository.Keeps (repository : PolicyRepository) (ids : Finset String) : Prop :=
  ∀ id constraints s, repository.policySet? id constraints = some s → s.id = id ∧ id ∈ ids

/-- The different ids under which there are policy sets. -/
def PolicyStore.policySetIds (store : PolicyStore) : Finset String :=
  (store.allPolicySets.map PolicySet.id).toFinset

variable {store : PolicyStore}

/-- Policy sets are stored under their ids. -/
lemma PolicyStore.Filled.id_eq (h : store.Filled) {id : String} {s : PolicySet}
    (hs : s ∈ (store.policySets.get? id).getD []) : s.id = id := by
  induction h with
  | empty => cases hs
  | policy _ p ih => exact ih hs
  | @policySet store _ added ih =>
    rw [addPolicySet, Catalogue.append] at hs
    by_cases hid : id = added.id
    · subst hid
      rw [Catalogue.get?_insert_self, Option.getD_some, List.mem_append] at hs
      rcases hs with hs | hs
      · exact ih hs
      · rw [List.mem_singleton.mp hs]
    · rw [Catalogue.get?_insert_of_ne _ hid] at hs
      exact ih hs

lemma PolicyStore.Filled.keeps (h : store.Filled) :
    store.toRepository.Keeps store.policySetIds := by
  intro id constraints s hs
  have hid : s.id = id := h.id_eq (mem_of_latestAdmitted hs)
  refine ⟨hid, List.mem_toFinset.mpr ?_⟩
  rw [← hid]
  exact List.mem_map_of_mem (PolicyStore.mem_allPolicySets hs)

end Store

namespace Environment

/-- In the course of the evaluation of a root, the evaluation of a node begins in a state. The
references to policy sets with the given ids are open then, the innermost first. -/
inductive StandsAt (env : Environment) (root : Root) : List String → PolicyNode → Progress → Prop
  | root : StandsAt env root [] root.toNode {}
  | child {opened : List String} {h : Heading} {children : List PolicyNode} {c : PolicyNode}
      {s s₁ start : Progress} {a : CombiningAlgorithm} {i : Fin _}
      {answer : Except ConfigurationError Decision}
      (parent : StandsAt env root opened (.policySet h children) s)
      (entered : env.entered h s = some s₁) (algorithm : env.algorithms.require h.algorithm = .ok a)
      (asked : .evaluated i start answer ∈
        env.combineTranscript a h (children.map (env.evaluatedChild h))
          { s₁ with enclosing := h.id :: s₁.enclosing, findings := {} })
      (place : children[i.val]? = some c) : StandsAt env root opened c start
  | policyRef {opened : List String} {r : Reference} {p : Policy} {s s₁ : Progress}
      (reference : StandsAt env root opened (.policyRef r) s)
      (found : env.resolvePolicy r s = (.ok (.ok p), s₁)) :
      StandsAt env root opened (.policy p) { s₁ with followed := s₁.followed + 1 }
  | policySetRef {opened : List String} {r : Reference} {set : PolicySet} {s s₁ : Progress}
      (reference : StandsAt env root opened (.policySetRef r) s)
      (found : env.resolvePolicySet r s = (.ok (.ok set), s₁)) :
      StandsAt env root (r.id :: opened) set.toNode { s₁ with followed := s₁.followed + 1 }

/-- In the course of the evaluation of a root, a node is evaluated, or the algorithm of a policy set
looks at the target of its child. -/
inductive AsksAbout (env : Environment) (root : Root) : PolicyNode → Progress → Prop
  | evaluated {opened : List String} {node : PolicyNode} {s : Progress}
      (stands : StandsAt env root opened node s) : AsksAbout env root node s
  | probed {opened : List String} {h : Heading} {children : List PolicyNode} {c : PolicyNode}
      {s s₁ start : Progress} {a : CombiningAlgorithm} {i : Fin _}
      {answer : Except ConfigurationError MatchResult}
      (parent : StandsAt env root opened (.policySet h children) s)
      (entered : env.entered h s = some s₁) (algorithm : env.algorithms.require h.algorithm = .ok a)
      (asked : .probed i start answer ∈
        env.combineTranscript a h (children.map (env.evaluatedChild h))
          { s₁ with enclosing := h.id :: s₁.enclosing, findings := {} })
      (place : children[i.val]? = some c) : AsksAbout env root c start

/-- The error with which a reference is refused in a state. -/
def refusal? (env : Environment) (node : PolicyNode) (s : Progress) : Option EvaluationError :=
  match node with
  | .policyRef r =>
    match (env.resolvePolicy r s).1 with
    | .ok (.error e) => some e
    | _ => none
  | .policySetRef r =>
    match (env.resolvePolicySet r s).1 with
    | .ok (.error e) => some e
    | _ => none
  | _ => none

/-- The ids of the policy sets around the children of a node, if these are around the node. -/
def around (node : PolicyNode) (enclosing : List String) : List String :=
  match node with
  | .policySet h _ => h.id :: enclosing
  | _ => enclosing

lemma subset_around (node : PolicyNode) (enclosing : List String) :
    enclosing ⊆ around node enclosing := by
  cases node with
  | policySet h children => exact List.subset_cons_self _ _
  | _ => exact List.Subset.refl _

/-- The ids of open references are ids of the repository, all different, and they are among those of
the policy sets around. -/
structure Open (ids : Finset String) (opened : List String) (node : PolicyNode)
    (enclosing : List String) (followed : ℕ) : Prop where
  nodup : opened.Nodup
  subset_ids : ∀ id ∈ opened, id ∈ ids
  subset_around : opened ⊆ around node enclosing
  /-- Behind a reference to a policy there are no others. -/
  followed : (∃ p, node = .policy p) ∨ followed = opened.length

variable {env : Environment} {root : Root} {ids : Finset String} {opened enclosing : List String}
  {followed : ℕ} {node : PolicyNode} {s s₁ : Progress}

lemma place_of_entered {h : Heading} (hs : env.entered h s = some s₁) :
    s₁.enclosing = s.enclosing ∧ s₁.followed = s.followed := by
  unfold entered at hs
  split at hs
  · cases hs
    exact ⟨rfl, rfl⟩
  · split at hs <;> cases hs
    exact ⟨rfl, rfl⟩
  · cases hs

lemma Open.start (ids : Finset String) (node : PolicyNode) : Open ids [] node [] 0 :=
  ⟨.nil, List.forall_mem_nil _, List.nil_subset _, Or.inr rfl⟩

/-- What is open in a policy set is open in its children. -/
lemma Open.child {h : Heading} {children : List PolicyNode}
    (hopen : Open ids opened (.policySet h children) enclosing followed) (c : PolicyNode) :
    Open ids opened c (h.id :: enclosing) followed := by
  refine ⟨hopen.nodup, hopen.subset_ids, ?_, Or.inr ?_⟩
  · exact List.Subset.trans hopen.subset_around (Environment.subset_around c (h.id :: enclosing))
  · obtain ⟨p, hp⟩ | hlength := hopen.followed
    · cases hp
    · exact hlength

lemma Open.asked {h : Heading} {children : List PolicyNode} {start : Progress}
    (hopen : Open ids opened (.policySet h children) s.enclosing s.followed)
    (hentered : env.entered h s = some s₁) (hplace : SamePlace
      { s₁ with enclosing := h.id :: s₁.enclosing, findings := {} } start) (c : PolicyNode) :
    Open ids opened c start.enclosing start.followed := by
  obtain ⟨-, henclosing, hfollowed⟩ := hplace
  obtain ⟨henclosing₁, hfollowed₁⟩ := place_of_entered hentered
  rw [henclosing, hfollowed, henclosing₁, hfollowed₁]
  exact hopen.child c

/-- A reference to a policy set that is not around it leads out of the ids that are open. -/
lemma Open.policySetRef (hkeeps : env.repository.Keeps ids) {r : Reference} {set : PolicySet}
    (hopen : Open ids opened (.policySetRef r) enclosing followed) (hacyclic : r.id ∉ enclosing)
    (hfound : env.repository.policySet? r.id r.constraints = some set) :
    Open ids (r.id :: opened) set.toNode enclosing (followed + 1) := by
  obtain ⟨hid, hmem⟩ := hkeeps _ _ _ hfound
  refine ⟨List.nodup_cons.mpr ⟨fun h => hacyclic (hopen.subset_around h), hopen.nodup⟩,
    List.forall_mem_cons.mpr ⟨hmem, hopen.subset_ids⟩, ?_, Or.inr ?_⟩
  · rw [← hid]
    exact List.cons_subset_cons _ hopen.subset_around
  · obtain ⟨p, hp⟩ | hlength := hopen.followed
    · cases hp
    · rw [List.length_cons, ← hlength]

/-- There are no more open references than there are ids. -/
lemma Open.length_le (hopen : Open ids opened node enclosing followed) :
    opened.length ≤ ids.card := by
  rw [← List.toFinset_card_of_nodup hopen.nodup]
  exact Finset.card_le_card fun id hid => hopen.subset_ids id (List.mem_toFinset.mp hid)

/-- At references, fewer are open than a greater limit lets be followed. -/
lemma Open.followed_lt (hopen : Open ids opened node enclosing followed)
    (hnode : ∀ p, node ≠ .policy p) {limit : ℕ} (hlimit : ids.card < limit) : followed < limit := by
  obtain ⟨p, hp⟩ | hfollowed := hopen.followed
  · exact absurd hp (hnode p)
  · calc followed = opened.length := hfollowed
      _ ≤ ids.card := hopen.length_le
      _ < limit := hlimit

lemma enclosing_of_resolvePolicySet {r : Reference} {set : PolicySet}
    (hfound : env.resolvePolicySet r s = (.ok (.ok set), s₁)) : s₁ = s ∧ r.id ∉ s.enclosing := by
  rw [resolvePolicySet_apply] at hfound
  refine ⟨(congrArg Prod.snd hfound).symm, fun hcycle => ?_⟩
  rw [if_pos (List.contains_iff_mem.mpr hcycle)] at hfound
  split at hfound <;> cases hfound

section Course

variable (hkeeps : env.repository.Keeps ids)
include hkeeps

/-- Wherever the evaluation stands, the ids of the open references are apart. -/
theorem StandsAt.isOpen (h : env.StandsAt root opened node s) :
    Open ids opened node s.enclosing s.followed := by
  induction h with
  | root => exact .start ids root.toNode
  | @child opened h children c s s₁ start a i answer _ hentered _ hasked _ ih =>
    exact ih.asked hentered (env.samePlace_transcript a h children _ _ hasked).1 c
  | @policyRef opened r p s s₁ _ hfound ih =>
    rw [resolvePolicy_apply] at hfound
    obtain rfl : s = s₁ := congrArg Prod.snd hfound
    exact ⟨ih.nodup, ih.subset_ids, ih.subset_around, Or.inl ⟨p, rfl⟩⟩
  | policySetRef _ hfound ih =>
    obtain ⟨rfl, hacyclic⟩ := enclosing_of_resolvePolicySet hfound
    exact ih.policySetRef hkeeps hacyclic (policySet?_of_resolvePolicySet hfound)

lemma AsksAbout.exists_open (h : env.AsksAbout root node s) :
    ∃ opened, Open ids opened node s.enclosing s.followed := by
  cases h with
  | evaluated stands => exact ⟨_, stands.isOpen hkeeps⟩
  | probed parent entered algorithm asked place =>
    exact ⟨_, (parent.isOpen hkeeps).asked entered (env.samePlace_transcript _ _ _ _ _ asked).1 _⟩

/-- Where the limit is greater than the number of ids, no reference is refused for its depth. -/
lemma AsksAbout.refusal?_ne_tooDeep (h : env.AsksAbout root node s)
    (hlimit : ids.card < env.maxReferenceDepth) (id : String) (limit : ℕ) :
    env.refusal? node s ≠ some (.referenceTooDeep id limit) := by
  obtain ⟨opened, hopen⟩ := h.exists_open hkeeps
  have hdepth (hnode : ∀ p, node ≠ .policy p) : ¬ env.maxReferenceDepth ≤ s.followed :=
    Nat.not_le.mpr (hopen.followed_lt hnode hlimit)
  cases node with
  | policy p => exact nofun
  | policySet h children => exact nofun
  | policyRef r =>
    rw [refusal?, resolvePolicy_apply, if_neg (hdepth nofun)]
    cases env.repository.policy? r.id r.constraints <;> exact nofun
  | policySetRef r =>
    rw [refusal?, resolvePolicySet_apply, if_neg (hdepth nofun)]
    by_cases hcycle : s.enclosing.contains r.id = true
    · rw [if_pos hcycle]
      exact nofun
    · rw [if_neg hcycle]
      cases env.repository.policySet? r.id r.constraints <;> exact nofun

end Course

end Environment
end PolicyDecision
