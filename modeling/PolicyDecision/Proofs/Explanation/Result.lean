import PolicyDecision.Proofs.Attributes.Noninterference
import PolicyDecision.Proofs.Combining.Registry
import PolicyDecision.Proofs.Explanation.Node

/-! Every indeterminate result is explained. -/

namespace PolicyDecision

open Stateful NodeEvaluation

namespace PolicyNode

mutual

/-- The headings of the policies and of the policy sets in a node. -/
def headings : PolicyNode → List Heading
  | policy p => [p.heading]
  | policySet h children => h :: headingsAll children
  | policyRef _ | policySetRef _ => []

def headingsAll : List PolicyNode → List Heading
  | [] => []
  | c :: cs => c.headings ++ headingsAll cs

end

lemma mem_headingsAll {h : Heading} {cs : List PolicyNode} :
    h ∈ headingsAll cs ↔ ∃ c ∈ cs, h ∈ c.headings := by
  induction cs with
  | nil => simp [headingsAll]
  | cons c cs ih => simp [headingsAll, ih]

end PolicyNode

namespace NodeEvaluation

variable {α : Type} {strict : Prop} {opened : ℕ}

/-- A reference is looked up, while so many may be open, without a change of the state. -/
def Finds (limit : ℕ) (found : α → Prop) (x : NodeEvaluation (Outcome α)) : Prop :=
  ∀ s r s', x s = (.ok r, s') → s' = s ∧ (∀ e, r = .error e → e.isExplicit = true) ∧
    ∀ a, r = .ok a → s.followed < limit ∧ found a

end NodeEvaluation

namespace Environment

variable {env : Environment} {strict : Prop} {opened : ℕ}

section References

variable {α : Type} {found : α → Prop} {x : NodeEvaluation (Outcome α)}

lemma finds_policy (r : Reference) : Finds env.maxReferenceDepth
    (fun p => env.repository.Yields (.policy p)) (env.resolvePolicy r) := by
  intro s result s' hrun
  rw [resolvePolicy_apply] at hrun
  obtain ⟨hresult, rfl⟩ := Prod.mk.inj hrun
  obtain rfl := Except.ok.inj hresult
  split
  · exact ⟨rfl, by rintro e ⟨⟩; rfl, by simp⟩
  · rename_i hdepth
    cases hp : env.repository.policy? r.id r.constraints with
    | none => exact ⟨rfl, by rintro e ⟨⟩; rfl, by simp⟩
    | some p =>
      refine ⟨rfl, by simp, fun a ha => ⟨Nat.lt_of_not_le hdepth, ?_⟩⟩
      cases ha
      exact .policy hp

lemma finds_policySet (r : Reference) : Finds env.maxReferenceDepth
    (fun s => env.repository.Yields s.toNode) (env.resolvePolicySet r) := by
  intro s result s' hrun
  rw [resolvePolicySet_apply] at hrun
  obtain ⟨hresult, rfl⟩ := Prod.mk.inj hrun
  obtain rfl := Except.ok.inj hresult
  split
  · exact ⟨rfl, by rintro e ⟨⟩; rfl, by simp⟩
  · rename_i hdepth
    split
    · exact ⟨rfl, by rintro e ⟨⟩; rfl, by simp⟩
    · cases hp : env.repository.policySet? r.id r.constraints with
      | none => exact ⟨rfl, by rintro e ⟨⟩; rfl, by simp⟩
      | some p =>
        refine ⟨rfl, by simp, fun a ha => ⟨Nat.lt_of_not_le hdepth, ?_⟩⟩
        cases ha
        exact .policySet hp

/-- A reference that is not followed is a failure with a cause. -/
lemma explains_follow (hx : Finds env.maxReferenceDepth found x)
    {evaluate : α → NodeEvaluation Decision}
    (hevaluate : opened < env.maxReferenceDepth → ∀ a, found a →
      Explains strict (opened + 1) (evaluate a)) :
    Explains strict opened (env.follow x evaluate) := by
  intro failed s d s' hs hrun
  rw [follow_apply] at hrun
  rcases hr : x s with ⟨c | err | a, s₁⟩
  · rw [hr] at hrun
    cases hrun
  · rw [hr] at hrun
    obtain ⟨rfl, herror, -⟩ := hx s _ s₁ hr
    cases hrun
    exact (hs.recording (herror err rfl)).imp fun _ => trivial
  · rw [hr] at hrun
    obtain ⟨rfl, -, hfound⟩ := hx s _ s₁ hr
    obtain ⟨hopen, ha⟩ := hfound a rfl
    rw [hs.opened] at hopen
    exact explains_behindReference (hevaluate hopen a ha) failed _ d s' hs hrun

lemma looks_probeReference (henv : env.Unaided) {limit : ℕ} (hx : Finds limit found x)
    (target : α → Option Target) : Looks (env.probeReference x target) := by
  intro s m s' hrun
  obtain ⟨result, s₁, hr, hrest⟩ := bind_eq_ok.mp hrun
  obtain ⟨rfl, herror, -⟩ := hx s result s₁ hr
  cases result with
  | ok a => exact looks_matchTarget henv (target a) s₁ m s' hrest
  | error e =>
    cases hrest
    refine ⟨rfl, fun e' he' => ?_⟩
    cases he'
    exact herror e rfl

end References

/-- Every algorithm of the node is indeterminate only if a child is. -/
def Inherits (env : Environment) (node : PolicyNode) : Prop :=
  ∀ h ∈ node.headings, ∀ a, env.algorithms.require h.algorithm = .ok a → a.Inherits

variable (henv : env.Unaided)
include henv

lemma looks_probeNode (node : PolicyNode) : Looks (env.probeNode node) := by
  cases node with
  | policy p => exact looks_matchTarget henv _
  | policySet h children => exact looks_matchTarget henv _
  | policyRef r =>
    rw [probeNode_policyRef]
    exact looks_probeReference henv (finds_policy r) _
  | policySetRef r =>
    rw [probeNode_policySetRef]
    exact looks_probeReference henv (finds_policySet r) _

section Nodes

variable (hrepository : strict → ∀ node, env.repository.Yields node → env.Inherits node)
include hrepository

lemma explains_evaluateNode_of_enter {enter : PolicySet → NodeEvaluation Decision}
    (henter : opened < env.maxReferenceDepth → ∀ s : PolicySet, env.repository.Yields s.toNode →
      Explains strict (opened + 1) (enter s))
    {node : PolicyNode} (hnode : strict → env.Inherits node) :
    Explains strict opened (env.evaluateNode enter node) := by
  have hpolicy : ∀ (opened : ℕ) (p : Policy), (strict → env.Inherits (.policy p)) →
      Explains strict opened (env.evaluatePolicy p) := fun opened p hp =>
    explains_evaluatePolicy henv fun hstrict => hp hstrict p.heading (by simp [PolicyNode.headings])
  induction node using PolicyNode.induction with
  | policy p =>
    rw [evaluateNode]
    exact hpolicy opened p hnode
  | policySet h children ih =>
    rw [evaluateNode, nodeChildren_eq_map]
    refine explains_evaluateSet henv (fun c hc => ?_) fun hstrict =>
      hnode hstrict h (by simp [PolicyNode.headings])
    obtain ⟨node, hmem, rfl⟩ := List.mem_map.mp hc
    refine ⟨ih node hmem fun hstrict heading hheading => ?_, looks_probeNode henv node⟩
    refine hnode hstrict heading ?_
    rw [PolicyNode.headings]
    exact List.mem_cons_of_mem h (PolicyNode.mem_headingsAll.mpr ⟨node, hmem, hheading⟩)
  | policyRef r =>
    rw [evaluateNode]
    exact explains_follow (finds_policy r) fun _ p hp =>
      hpolicy (opened + 1) p fun hstrict => hrepository hstrict _ hp
  | policySetRef r =>
    rw [evaluateNode]
    exact explains_follow (finds_policySet r) henter

/-- As many references may still be followed as the bound says, so that where it is met a reference
is refused, and the refusal recorded. -/
theorem explains_evaluateNode (budget : ℕ) (hbudget : env.maxReferenceDepth ≤ opened + budget)
    {node : PolicyNode} (hnode : strict → env.Inherits node) :
    Explains strict opened (env.evaluateNode (env.enterSet budget) node) := by
  induction budget generalizing opened node with
  | zero =>
    refine explains_evaluateNode_of_enter henv hrepository (fun hopen => ?_) hnode
    omega
  | succ budget ih =>
    refine explains_evaluateNode_of_enter henv hrepository (fun _ s hs => ?_) hnode
    rw [enterSet]
    exact ih (by omega) fun hstrict => hrepository hstrict _ hs

end Nodes

omit henv

/-- The first error that the evaluation of a root records. -/
def recordedError (env : Environment) (root : Root) : Option EvaluationError :=
  (env.evaluateChild root.toNode {}).2.firstError

/-- The status of a result is ok unless the result is indeterminate. If all algorithms are
indeterminate only when a child is, then an indeterminate result has the first error as its status,
and this names a cause. -/
structure Explained (env : Environment) (root : Root) (result : EvaluationResult) : Prop where
  status : result.status.code = .ok ↔ result.decision.isIndeterminate = false
  cause : env.Inherits root.toNode → (∀ node, env.repository.Yields node → env.Inherits node) →
    result.decision.isIndeterminate = true → ∃ e, env.recordedError root = some e ∧
      e.isExplicit = true ∧ result.status = .ofError e

include henv

theorem explained_evaluateRoot {root : Root} {result : EvaluationResult}
    (hresult : env.evaluateRoot root = .ok result) : env.Explained root result := by
  let Strict : Prop :=
    env.Inherits root.toNode ∧ ∀ node, env.repository.Yields node → env.Inherits node
  have hstart : Progress.Explicit False 0 {} :=
    ⟨VariableStates.onlyFaults_empty, (fun e he => nomatch he), False.elim, rfl⟩
  rw [evaluateRoot_eq] at hresult
  rcases hx : env.evaluateNode (env.enterSet env.maxReferenceDepth) root.toNode {} with
    ⟨c | d, s⟩
  · rw [hx] at hresult
    cases hresult
  · rw [hx] at hresult
    obtain rfl := Except.ok.inj hresult
    have hs : s.Explicit (False ∨ Strict ∧ d.isIndeterminate = true) 0 :=
      explains_evaluateNode henv (fun hstrict => hstrict.2) env.maxReferenceDepth (by omega)
        (fun hstrict => hstrict.1) False {} d s hstart hx
    have herror : (s.firstError.getD .undecided).status ≠ .ok := by
      cases he : s.firstError with
      | none => simp [EvaluationError.status]
      | some e => exact EvaluationError.status_ne_ok (hs.first e he)
    refine ⟨?_, fun hroot hrepository hd => ?_⟩
    · cases hd : d.isIndeterminate with
      | true => simpa [Environment.result, hd, Status.ofError] using herror
      | false => simp [Environment.result, hd, Status.ok]
    · obtain ⟨e, he⟩ := Option.isSome_iff_exists.mp (hs.recorded (Or.inr ⟨⟨hroot, hrepository⟩, hd⟩))
      have hrecorded : env.recordedError root = s.firstError := by
        change (env.evaluateNode (env.enterSet env.maxReferenceDepth) root.toNode {}).2.firstError = _
        rw [hx]
      refine ⟨e, hrecorded.trans he, hs.first e he, ?_⟩
      simp only [Environment.result] at hd ⊢
      rw [if_pos hd, he, Option.getD_some]

end Environment

namespace DecisionPoint

variable {p : DecisionPoint}

/-- Neither the root nor anything that the repository may answer with is combined by the algorithm
that expects one child to apply. -/
def AvoidsOnlyOneApplicable (p : DecisionPoint) : Prop :=
  (∀ h ∈ p.root.toNode.headings,
    h.algorithm ≠ StandardAlgorithm.policyUri "1.0" "only-one-applicable") ∧
  ∀ node, p.repository.Yields node → ∀ h ∈ node.headings,
    h.algorithm ≠ StandardAlgorithm.policyUri "1.0" "only-one-applicable"

/-- The result of an individual request has the status ok exactly if it decides. Where no algorithm
fails of itself, an indeterminate result of a request that could be made has as its status the first
error that the evaluation recorded, and never the generic one. -/
structure Explains (p : DecisionPoint) (now : Calendar.DateTime) (part : Outcome Request)
    (result : EvaluationResult) : Prop where
  status : result.status.code = .ok ↔ result.decision ∈ [.permit, .deny, .notApplicable]
  cause : p.AvoidsOnlyOneApplicable → ∀ r, part = .ok r → result.decision.isIndeterminate = true →
    ∃ e, (p.environment now r).recordedError p.root = some e ∧ result.status = .ofError e ∧
      e.message ≠ EvaluationError.undecided.message

lemma mem_decided {d : Decision} :
    d ∈ [Decision.permit, .deny, .notApplicable] ↔ d.isIndeterminate = false := by
  cases d <;> decide

/-- A request that could not be made has an error that says so. -/
lemma explicit_individuals {r : Request} {e : EvaluationError} (he : .error e ∈ r.individuals) :
    e.isExplicit = true := by
  have hblock : ∀ id, Explicit (r.blockById id) := by
    intro id
    unfold Request.blockById
    split
    · exact errors_ok _
    · exact errors_error rfl
  unfold Request.individuals at he
  split at he
  · simp at he
  · split at he
    · obtain ⟨ids, -, hids⟩ := List.mem_map.mp he
      cases hblocks : ids.mapM r.blockById with
      | ok blocks =>
        rw [hblocks] at hids
        cases hids
      | error e' =>
        rw [hblocks] at hids
        cases hids
        exact errors_mapM (fun id _ => hblock id) e hblocks
    · split at he
      · simp at he
      · simp at he

lemma explains_evaluatePart (hfunctions : p.libraries.functions = .standard)
    (halgorithms : p.libraries.algorithms = .standard) (hsource : p.source = none)
    {now : Calendar.DateTime} {r : Request} {part : Outcome Request} (hpart : part ∈ r.individuals)
    {result : EvaluationResult} (hresult : p.evaluatePart now part = .ok result) :
    p.Explains now part result := by
  cases part with
  | error e =>
    cases hresult
    refine ⟨?_, (fun _ r hr => nomatch hr)⟩
    have hstatus := EvaluationError.status_ne_ok (explicit_individuals hpart)
    simpa [EvaluationResult.indeterminate, Status.ofError] using hstatus
  | ok q =>
    have hunaided : (p.environment now q).Unaided :=
      ⟨hfunctions, q, by rw [environment, hsource]⟩
    have hinherits : ∀ node : PolicyNode, (∀ h ∈ node.headings,
        h.algorithm ≠ StandardAlgorithm.policyUri "1.0" "only-one-applicable") →
          (p.environment now q).Inherits node := by
      intro node hnode h hh a ha
      rw [environment, halgorithms] at ha
      exact AlgorithmRegistry.inherits_of_require ha (hnode h hh)
    obtain ⟨inner, hinner, hreturned⟩ := except_bind_eq_ok.mp hresult
    obtain rfl := Except.ok.inj hreturned
    have hexplained := Environment.explained_evaluateRoot hunaided hinner
    refine ⟨hexplained.status.trans mem_decided.symm, fun havoids r hr hd => ?_⟩
    cases hr
    obtain ⟨e, hrecorded, hexplicit, hstatus⟩ := hexplained.cause (hinherits _ havoids.1)
      (fun node hnode => hinherits node (havoids.2 node hnode)) hd
    exact ⟨e, hrecorded, hstatus, EvaluationError.message_ne_undecided hexplicit⟩

/-- With the standard libraries and no other source of attributes, every result of an individual
request is explained, unless the results are combined. -/
theorem evaluate_explained (hfunctions : p.libraries.functions = .standard)
    (halgorithms : p.libraries.algorithms = .standard) (hsource : p.source = none)
    {now : Calendar.DateTime} {r : Request} {results : List EvaluationResult}
    (hresults : p.evaluate now r = .ok results)
    (hindividual : r.combinedDecision = false ∨ r.individuals.length ≤ 1) :
    List.Forall₂ (p.Explains now) r.individuals results := by
  obtain ⟨parts, hparts, hreturned⟩ := except_bind_eq_ok.mp hresults
  have hevaluated := forall₂_of_except_mapM_eq_ok hparts
  have hcombined : (r.combinedDecision && decide (1 < parts.length)) = false := by
    rw [← hevaluated.length_eq]
    rcases hindividual with h | h
    · simp [h]
    · simp [Nat.not_lt.mpr h]
  rw [hcombined] at hreturned
  obtain rfl := Except.ok.inj hreturned
  exact hevaluated.imp fun part result h =>
    explains_evaluatePart hfunctions halgorithms hsource h.1 h.2

/-- A policy with a condition that is not a boolean. -/
def misjudging : Policy where
  heading := { id := "misjudging", algorithm := StandardAlgorithm.ruleUri "1.0" "first-applicable" }
  rules := [{
    id := "open"
    effect := .permit
    condition := some (.literal ⟨DataType.string.uri, "x"⟩) }]

def faulty : DecisionPoint where
  root := .policy misjudging
  repository := ⟨fun _ _ => none, fun _ _ => none⟩
  libraries := ⟨.standard, .standard⟩
  source := none
  configuration := {}

lemma evaluatePolicy_misjudging :
    ((faulty.environment noon faulty.request).evaluatePolicy misjudging {}).1 =
      .ok .indeterminateP := by
  have halgorithm : (faulty.environment noon faulty.request).algorithms.require
      misjudging.heading.algorithm = .ok StandardAlgorithm.firstApplicable.algorithm :=
    AlgorithmRegistry.require_ruleUri (by decide)
  rw [Environment.evaluatePolicy_of_untargeted _ rfl, Environment.collecting_apply,
    Environment.combine_apply, halgorithm]
  decide +kernel

theorem evaluate_faulty : faulty.AvoidsOnlyOneApplicable ∧
    ∃ result, faulty.evaluate noon faulty.request = .ok [result] ∧
      result.decision = .indeterminateP ∧
      List.Forall₂ (faulty.Explains noon) faulty.request.individuals [result] := by
  have havoids : faulty.AvoidsOnlyOneApplicable := by
    refine ⟨by decide +kernel, fun node hnode => ?_⟩
    cases hnode with
    | policy found => cases found
    | policySet found => cases found
  have hresult : ∃ result,
      (faulty.environment noon faulty.request).evaluateRoot faulty.root = .ok result ∧
        result.decision = .indeterminateP := by
    have hroot : faulty.root.toNode = .policy misjudging := rfl
    rw [Environment.evaluateRoot_eq, hroot, Environment.evaluateNode, evaluatePolicy_misjudging]
    exact ⟨_, rfl, rfl⟩
  obtain ⟨result, hresult, hdecision⟩ := hresult
  have hevaluate : faulty.evaluate noon faulty.request =
      .ok [{ result with attributes := faulty.request.returned }] := by
    rw [evaluate_of_individuals noon rfl, evaluateIndividual, hresult]
    rfl
  have hfunctions : faulty.libraries.functions = .standard := rfl
  have halgorithms : faulty.libraries.algorithms = .standard := rfl
  have hsource : faulty.source = none := rfl
  exact ⟨havoids, _, hevaluate, hdecision,
    evaluate_explained hfunctions halgorithms hsource hevaluate (.inl rfl)⟩

end DecisionPoint

end PolicyDecision
