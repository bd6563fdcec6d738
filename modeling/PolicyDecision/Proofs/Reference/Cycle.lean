import PolicyDecision.Proofs.Attributes.Noninterference
import PolicyDecision.Proofs.Reference.Opened

/-! References to policy sets that are refused as cycles. The check compares the id of a reference
with those of the policy sets that are being evaluated, and does so before it is known to which
policy set the reference leads. -/

namespace PolicyDecision

open Stateful NodeEvaluation

namespace Environment

/-- In the course of the evaluation of a root, the evaluation of a node begins in a state. The given
policy sets are being evaluated then, the innermost first. -/
inductive StandsAmid (env : Environment) (root : Root) :
    List PolicySet → PolicyNode → Progress → Prop
  | root : StandsAmid env root [] root.toNode {}
  | child {sets : List PolicySet} {h : Heading} {children : List PolicyNode} {c : PolicyNode}
      {s s₁ start : Progress} {a : CombiningAlgorithm} {i : Fin _}
      {answer : Except ConfigurationError Decision}
      (parent : StandsAmid env root sets (.policySet h children) s)
      (entered : env.entered h s = some s₁) (algorithm : env.algorithms.require h.algorithm = .ok a)
      (asked : .evaluated i start answer ∈
        env.combineTranscript a h (children.map (env.evaluatedChild h))
          { s₁ with enclosing := h.id :: s₁.enclosing, findings := {} })
      (place : children[i.val]? = some c) : StandsAmid env root (⟨h, children⟩ :: sets) c start
  | policyRef {sets : List PolicySet} {r : Reference} {p : Policy} {s s₁ : Progress}
      (reference : StandsAmid env root sets (.policyRef r) s)
      (found : env.resolvePolicy r s = (.ok (.ok p), s₁)) :
      StandsAmid env root sets (.policy p) { s₁ with followed := s₁.followed + 1 }
  | policySetRef {sets : List PolicySet} {r : Reference} {set : PolicySet} {s s₁ : Progress}
      (reference : StandsAmid env root sets (.policySetRef r) s)
      (found : env.resolvePolicySet r s = (.ok (.ok set), s₁)) :
      StandsAmid env root sets set.toNode { s₁ with followed := s₁.followed + 1 }

/-- A node is evaluated, or the algorithm of the innermost of the given policy sets looks at its
target. -/
inductive AsksAmid (env : Environment) (root : Root) :
    List PolicySet → PolicyNode → Progress → Prop
  | evaluated {sets : List PolicySet} {node : PolicyNode} {s : Progress}
      (stands : StandsAmid env root sets node s) : AsksAmid env root sets node s
  | probed {sets : List PolicySet} {h : Heading} {children : List PolicyNode} {c : PolicyNode}
      {s s₁ start : Progress} {a : CombiningAlgorithm} {i : Fin _}
      {answer : Except ConfigurationError MatchResult}
      (parent : StandsAmid env root sets (.policySet h children) s)
      (entered : env.entered h s = some s₁) (algorithm : env.algorithms.require h.algorithm = .ok a)
      (asked : .probed i start answer ∈
        env.combineTranscript a h (children.map (env.evaluatedChild h))
          { s₁ with enclosing := h.id :: s₁.enclosing, findings := {} })
      (place : children[i.val]? = some c) : AsksAmid env root (⟨h, children⟩ :: sets) c start

variable {env : Environment} {root : Root} {sets : List PolicySet} {node : PolicyNode}
  {s : Progress}

section Course

lemma StandsAt.exists_standsAmid {opened : List String} (h : env.StandsAt root opened node s) :
    ∃ sets, env.StandsAmid root sets node s := by
  induction h with
  | root => exact ⟨[], .root⟩
  | child _ entered algorithm asked place ih =>
    obtain ⟨sets, hsets⟩ := ih
    exact ⟨_, .child hsets entered algorithm asked place⟩
  | policyRef _ found ih =>
    obtain ⟨sets, hsets⟩ := ih
    exact ⟨sets, .policyRef hsets found⟩
  | policySetRef _ found ih =>
    obtain ⟨sets, hsets⟩ := ih
    exact ⟨sets, .policySetRef hsets found⟩

lemma StandsAmid.exists_standsAt (h : env.StandsAmid root sets node s) :
    ∃ opened, env.StandsAt root opened node s := by
  induction h with
  | root => exact ⟨[], .root⟩
  | child _ entered algorithm asked place ih =>
    obtain ⟨opened, hopened⟩ := ih
    exact ⟨opened, .child hopened entered algorithm asked place⟩
  | policyRef _ found ih =>
    obtain ⟨opened, hopened⟩ := ih
    exact ⟨opened, .policyRef hopened found⟩
  | @policySetRef _ r _ _ _ _ found ih =>
    obtain ⟨opened, hopened⟩ := ih
    exact ⟨r.id :: opened, .policySetRef hopened found⟩

/-- Every question in the course of an evaluation is asked amid some policy sets. -/
theorem asksAbout_iff_exists_asksAmid :
    env.AsksAbout root node s ↔ ∃ sets, env.AsksAmid root sets node s := by
  constructor
  · intro h
    cases h with
    | evaluated stands =>
      obtain ⟨sets, hsets⟩ := stands.exists_standsAmid
      exact ⟨sets, .evaluated hsets⟩
    | probed parent entered algorithm asked place =>
      obtain ⟨sets, hsets⟩ := parent.exists_standsAmid
      exact ⟨_, .probed hsets entered algorithm asked place⟩
  · rintro ⟨sets, h⟩
    cases h with
    | evaluated stands =>
      obtain ⟨opened, hopened⟩ := stands.exists_standsAt
      exact .evaluated hopened
    | probed parent entered algorithm asked place =>
      obtain ⟨opened, hopened⟩ := parent.exists_standsAt
      exact .probed hopened entered algorithm asked place

/-- What is asked within a policy set is asked with its id on the stack. -/
lemma enclosing_asked {h : Heading} {children : List PolicyNode} {s₁ start : Progress}
    (hs : s.enclosing = sets.map PolicySet.id) (hentered : env.entered h s = some s₁)
    (hplace : SamePlace { s₁ with enclosing := h.id :: s₁.enclosing, findings := {} } start) :
    start.enclosing = (PolicySet.mk h children :: sets).map PolicySet.id := by
  obtain ⟨-, henclosing, -⟩ := hplace
  rw [henclosing, (place_of_entered hentered).1, hs]
  rfl

/-- The stack of ids is that of the policy sets that are being evaluated. -/
theorem StandsAmid.enclosing_eq (h : env.StandsAmid root sets node s) :
    s.enclosing = sets.map PolicySet.id := by
  induction h with
  | root => rfl
  | @child sets h children c s s₁ start a i answer _ entered _ asked _ ih =>
    exact enclosing_asked ih entered (env.samePlace_transcript a h children _ _ asked).1
  | @policyRef _ r _ s _ _ found ih =>
    rw [resolvePolicy_apply] at found
    obtain rfl : s = _ := congrArg Prod.snd found
    exact ih
  | policySetRef _ found ih =>
    obtain ⟨rfl, -⟩ := enclosing_of_resolvePolicySet found
    exact ih

lemma AsksAmid.enclosing_eq (h : env.AsksAmid root sets node s) :
    s.enclosing = sets.map PolicySet.id := by
  cases h with
  | evaluated stands => exact stands.enclosing_eq
  | @probed _ h children _ _ _ _ a _ _ parent entered _ asked _ =>
    exact enclosing_asked parent.enclosing_eq entered
      (env.samePlace_transcript a h children _ _ asked).1

lemma AsksAmid.mem_enclosing_iff (h : env.AsksAmid root sets node s) {id : String} :
    id ∈ s.enclosing ↔ ∃ set ∈ sets, set.id = id := by
  rw [h.enclosing_eq, List.mem_map]

lemma refusal?_policySetRef (env : Environment) (r : Reference) (s : Progress) :
    env.refusal? (.policySetRef r) s =
      if env.maxReferenceDepth ≤ s.followed then
        some (.referenceTooDeep r.id env.maxReferenceDepth)
      else if r.id ∈ s.enclosing then some (.referenceCycle r.id)
      else if (env.repository.policySet? r.id r.constraints).isSome then none
      else some (.referenceNotFound r.id) := by
  rw [refusal?, resolvePolicySet_apply]
  by_cases hdepth : env.maxReferenceDepth ≤ s.followed
  · rw [if_pos hdepth, if_pos hdepth]
  · rw [if_neg hdepth, if_neg hdepth]
    by_cases hcycle : r.id ∈ s.enclosing
    · rw [if_pos (List.contains_iff_mem.mpr hcycle), if_pos hcycle]
    · rw [if_neg (mt List.contains_iff_mem.mp hcycle), if_neg hcycle]
      cases env.repository.policySet? r.id r.constraints <;> rfl

/-- The check sees neither the constraints of a reference nor what it leads to. -/
lemma refusal?_eq_cycle_iff (env : Environment) (node : PolicyNode) (s : Progress) (id : String) :
    env.refusal? node s = some (.referenceCycle id) ↔
      ∃ r, node = .policySetRef r ∧ id = r.id ∧ s.followed < env.maxReferenceDepth ∧
        r.id ∈ s.enclosing := by
  constructor
  · intro h
    cases node with
    | policy p => cases h
    | policySet h' children => cases h
    | policyRef r =>
      rw [refusal?, resolvePolicy_apply] at h
      by_cases hdepth : env.maxReferenceDepth ≤ s.followed
      · rw [if_pos hdepth] at h
        cases h
      · rw [if_neg hdepth] at h
        cases hfound : env.repository.policy? r.id r.constraints <;> rw [hfound] at h <;> cases h
    | policySetRef r =>
      rw [refusal?_policySetRef] at h
      split_ifs at h with hdepth hcycle hfound
      · cases h
      · cases h
        exact ⟨r, rfl, rfl, Nat.not_le.mp hdepth, hcycle⟩
      · cases h
  · rintro ⟨r, rfl, rfl, hlt, hcycle⟩
    rw [refusal?_policySetRef, if_neg (Nat.not_le.mpr hlt), if_pos hcycle]

/-- A reference that leads to a policy set is followed unless it is refused as a cycle. -/
lemma evaluateChild_of_found {r : Reference} {found : PolicySet}
    (hdepth : s.followed < env.maxReferenceDepth)
    (hfound : env.repository.policySet? r.id r.constraints = some found) :
    env.evaluateChild (.policySetRef r) s =
      if r.id ∈ s.enclosing then
        (.ok (env.version.indeterminate none), s.recorded (.referenceCycle r.id))
      else behindReference (env.evaluatePolicySet found) s := by
  rw [evaluateChild_policySetRef, follow_apply, resolvePolicySet_apply,
    if_neg (Nat.not_le.mpr hdepth), hfound]
  by_cases hcycle : r.id ∈ s.enclosing
  · rw [if_pos (List.contains_iff_mem.mpr hcycle), if_pos hcycle]
  · rw [if_neg (mt List.contains_iff_mem.mp hcycle), if_neg hcycle]

/-- A reference is refused as a cycle where a policy set with its id is being evaluated, of whatever
version. So it is refused if it leads to one that is being evaluated, but a refusal may also mean
that another of the same id is. Unless it is refused, what it leads to is evaluated. -/
theorem AsksAmid.refused_as_cycle (h : env.AsksAmid root sets node s) :
    (∀ id, env.refusal? node s = some (.referenceCycle id) ↔
      ∃ r, node = .policySetRef r ∧ id = r.id ∧ s.followed < env.maxReferenceDepth ∧
        ∃ set ∈ sets, set.id = r.id) ∧
    ∀ r found, node = .policySetRef r → s.followed < env.maxReferenceDepth →
      env.repository.policySet? r.id r.constraints = some found → found.id = r.id →
      let refused := env.refusal? node s = some (.referenceCycle r.id)
      (found ∈ sets → refused) ∧
        (refused → found ∈ sets ∨ ∃ set ∈ sets, set.id = found.id ∧ set ≠ found) ∧
        (refused → env.evaluateChild node s =
          (.ok (env.version.indeterminate none), s.recorded (.referenceCycle r.id))) ∧
        (¬ refused → env.evaluateChild node s =
          behindReference (env.evaluatePolicySet found) s) := by
  have hcycle : ∀ id, env.refusal? node s = some (.referenceCycle id) ↔
      ∃ r, node = .policySetRef r ∧ id = r.id ∧ s.followed < env.maxReferenceDepth ∧
        ∃ set ∈ sets, set.id = r.id := by
    intro id
    rw [refusal?_eq_cycle_iff]
    simp only [h.mem_enclosing_iff]
  refine ⟨hcycle, ?_⟩
  rintro r found rfl hdepth hfound hid refused
  have hrefused : refused ↔ ∃ set ∈ sets, set.id = r.id := by
    refine (hcycle r.id).trans ⟨?_, fun hset => ⟨r, rfl, rfl, hdepth, hset⟩⟩
    rintro ⟨_, hr, -, -, hset⟩
    cases hr
    exact hset
  rw [evaluateChild_of_found hdepth hfound]
  refine ⟨?_, ?_, ?_, ?_⟩
  · intro hmem
    exact hrefused.mpr ⟨found, hmem, hid⟩
  · intro hr
    obtain ⟨set, hset, hsetid⟩ := hrefused.mp hr
    by_cases heq : set = found
    · exact .inl (heq ▸ hset)
    · exact .inr ⟨set, hset, hsetid.trans hid.symm, heq⟩
  · intro hr
    exact if_pos (h.mem_enclosing_iff.mpr (hrefused.mp hr))
  · intro hr
    exact if_neg fun hmem => hr (hrefused.mpr (h.mem_enclosing_iff.mp hmem))

end Course

end Environment

namespace DecisionPoint

/-- The second version of a policy set permits everything. -/
def revision : PolicySet where
  heading := { id := "ward", version := "2.0", algorithm := "overrides" }
  children := [.policy {
    heading := { id := "all", algorithm := "overrides" }
    rules := [{ id := "open", effect := .permit }] }]

def toRevision : Reference := { id := "ward", constraints := { version := some "2.0" } }

/-- A policy set that leaves the decision to the revision. -/
def deferring (id : String) : PolicySet where
  heading := { id, algorithm := "overrides" }
  children := [.policySetRef toRevision]

/-- The decision point for such a policy set, with the revision in its store. -/
def revised (id : String) : DecisionPoint where
  root := .policySet (deferring id)
  repository := (PolicyStore.addPolicySet {} revision).toRepository
  libraries := ⟨.empty, AlgorithmRegistry.empty.register "overrides"
    StandardAlgorithm.denyOverrides.algorithm⟩
  source := none
  configuration := {}

/-- Where the reference is evaluated. -/
def withinWard : Progress := { enclosing := ["ward"] }

lemma asksAmid_ward : ((revised "ward").environment noon (revised "ward").request).AsksAmid
    (revised "ward").root [deferring "ward"] (.policySetRef toRevision) withinWard := by
  have hasked : .evaluated ⟨0, Nat.one_pos⟩ withinWard (.ok .indeterminateDP) ∈
      ((revised "ward").environment noon (revised "ward").request).combineTranscript
        StandardAlgorithm.denyOverrides.algorithm (deferring "ward").heading
        ((deferring "ward").children.map (((revised "ward").environment noon
          (revised "ward").request).evaluatedChild (deferring "ward").heading)) withinWard :=
    List.mem_cons_self
  exact .evaluated (.child .root rfl rfl hasked rfl)

lemma revision_notMem : revision ∉ [deferring "ward"] := by
  intro hmem
  have hversion : "2.0" = "1.0" :=
    congrArg (fun set : PolicySet => set.heading.version) (List.mem_singleton.mp hmem)
  exact absurd hversion (by decide)

/-- The second version permits, but not within the first. -/
theorem exists_refused_without_cycle :
    let env := (revised "ward").environment noon (revised "ward").request
    env.AsksAmid (revised "ward").root [deferring "ward"] (.policySetRef toRevision) withinWard ∧
      withinWard.followed < env.maxReferenceDepth ∧
      env.repository.policySet? toRevision.id toRevision.constraints = some revision ∧
      revision ∉ [deferring "ward"] ∧
      env.refusal? (.policySetRef toRevision) withinWard = some (.referenceCycle "ward") ∧
      ((revised "ward").evaluate noon (revised "ward").request).map
          (List.map fun result => (result.decision, result.status)) =
        .ok [(.indeterminateDP, .ofError (.referenceCycle "ward"))] ∧
      ((revised "clinic").evaluate noon (revised "clinic").request).map
          (List.map fun result => (result.decision, result.status)) =
        .ok [(.permit, .ok)] :=
  ⟨asksAmid_ward, by decide, rfl, revision_notMem, rfl, by decide +kernel, by decide +kernel⟩

/-- The refusal is owed to the first version. -/
theorem refused_as_cycle_ward :
    let env := (revised "ward").environment noon (revised "ward").request
    env.AsksAmid (revised "ward").root [deferring "ward"] (.policySetRef toRevision) withinWard ∧
      env.refusal? (.policySetRef toRevision) withinWard = some (.referenceCycle "ward") ∧
      (∃ set ∈ [deferring "ward"], set.id = revision.id ∧ set ≠ revision) ∧
      env.evaluateChild (.policySetRef toRevision) withinWard =
        (.ok .indeterminateDP, withinWard.recorded (.referenceCycle "ward")) := by
  intro env
  obtain ⟨hcycle, hfound⟩ := asksAmid_ward.refused_as_cycle
  have hrefused : env.refusal? (.policySetRef toRevision) withinWard =
      some (.referenceCycle "ward") :=
    (hcycle "ward").mpr ⟨toRevision, rfl, rfl, by decide, _, List.mem_cons_self, rfl⟩
  obtain ⟨-, hother, hevaluated, -⟩ :=
    hfound toRevision revision rfl (by decide) rfl rfl
  exact ⟨asksAmid_ward, hrefused, (hother hrefused).resolve_left revision_notMem,
    hevaluated hrefused⟩

end DecisionPoint
end PolicyDecision
