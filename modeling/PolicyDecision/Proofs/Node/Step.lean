import PolicyDecision.Proofs.Combining.Transcript
import PolicyDecision.Proofs.Decision

/-! What the operations on nodes yield in a given state. -/

namespace PolicyDecision

/-- The state once an error has been recorded. -/
def Progress.recorded (s : Progress) (e : EvaluationError) : Progress :=
  { s with firstError := s.firstError.or (some e) }

open Stateful NodeEvaluation

namespace NodeEvaluation

@[simp] lemma ofResult_apply {α : Type} (x : Except ConfigurationError α) (s : Progress) :
    ofResult x s = (x, s) := rfl

lemma outcome_apply {α : Type} (x : Evaluation α) (s : Progress) :
    outcome x s = match x s.known with
      | (.ok a, known) => (.ok (.ok a), { s with known })
      | (.error (.evaluation e), known) => (.ok (.error e), { s with known })
      | (.error (.configuration e), known) => (.error e, { s with known }) := by
  unfold outcome
  rcases x s.known with ⟨(_ | _) | _, _⟩ <;> rfl

lemma recording_apply (x : NodeEvaluation MatchResult) (s : Progress) :
    recording x s = match x s with
      | (.ok (.indeterminate e), s') => (.ok (.indeterminate e), s'.recorded e)
      | (.ok m, s') => (.ok m, s')
      | (.error e, s') => (.error e, s') := by
  unfold recording
  rw [bind_apply]
  rcases x s with ⟨_ | _ | _ | _, _⟩ <;> rfl

lemma withFreshVariables_eq_ok {α : Type} {x : NodeEvaluation α} {a : α} {s s' : Progress}
    (h : withFreshVariables x s = (.ok a, s')) :
    ∃ s₁, x { s with known := ∅ } = (.ok a, s₁) ∧ s' = { s₁ with known := s.known } := by
  unfold withFreshVariables at h
  rcases hx : x { s with known := ∅ } with ⟨r, s₁⟩
  rw [hx] at h
  cases h
  exact ⟨s₁, rfl, rfl⟩

lemma withinSet_eq_ok {α : Type} {id : String} {x : NodeEvaluation α} {a : α} {s s' : Progress}
    (h : withinSet id x s = (.ok a, s')) :
    ∃ s₁, x { s with enclosing := id :: s.enclosing } = (.ok a, s₁) ∧
      s' = { s₁ with enclosing := s₁.enclosing.tail } := by
  unfold withinSet at h
  rcases hx : x { s with enclosing := id :: s.enclosing } with ⟨r, s₁⟩
  rw [hx] at h
  cases h
  exact ⟨s₁, rfl, rfl⟩

lemma behindReference_eq_ok {α : Type} {x : NodeEvaluation α} {a : α} {s s' : Progress}
    (h : behindReference x s = (.ok a, s')) :
    ∃ s₁, x { s with followed := s.followed + 1 } = (.ok a, s₁) ∧
      s' = { s₁ with followed := s₁.followed - 1 } := by
  unfold behindReference at h
  rcases hx : x { s with followed := s.followed + 1 } with ⟨r, s₁⟩
  rw [hx] at h
  cases h
  exact ⟨s₁, rfl, rfl⟩

end NodeEvaluation

namespace Environment

variable (env : Environment)

lemma whenApplicable_apply (h : Heading) (body : Bool → NodeEvaluation Decision) (s : Progress) :
    env.whenApplicable h body s = match env.matchTarget h.target with
      | .ok .isMatch => body false s
      | .ok .noMatch => (.ok .notApplicable, s)
      | .ok (.indeterminate e) =>
        if env.version.isExtended then body true (s.recorded e)
        else (.ok (env.version.indeterminate none), s.recorded e)
      | .error e => (.error e, s) := by
  unfold whenApplicable
  rw [bind_apply, ofResult_apply]
  rcases env.matchTarget h.target with _ | _ | _ | e
  · rfl
  · rfl
  · rfl
  · cases env.version.isExtended <;> rfl

lemma conclude_apply (h : Heading) (definitions : List VariableDefinition) (d : Decision)
    (inner : Findings) (s : Progress) :
    env.conclude h definitions d inner s = match d.effect? with
      | none => (.ok d, s)
      | some effect =>
        match env.evaluateDuties definitions effect h.obligations h.advice s.known with
        | (.ok duties, known) =>
          (.ok d, { s with known, findings := (s.findings.adopt inner effect).addDuties duties })
        | (.error (.evaluation e), known) =>
          (.ok (env.version.indeterminate (some effect)),
            Progress.recorded { s with known } e)
        | (.error (.configuration e), known) => (.error e, { s with known }) := by
  unfold conclude
  cases d.effect? with
  | none => rfl
  | some effect =>
    simp only
    rw [bind_apply, outcome_apply]
    rcases env.evaluateDuties definitions effect h.obligations h.advice s.known with
      ⟨(_ | _) | _, _⟩ <;> rfl

/-- The state once a node is listed, if it applies and nodes are listed. -/
def listed (kind : PolicyKind) (h : Heading) (d : Decision) (s : Progress) : Progress :=
  if env.collectPolicies && d != .notApplicable then
    { s with findings := s.findings.addPolicy ⟨kind, h.id, h.version⟩ d.effect? }
  else s

lemma collecting_apply (kind : PolicyKind) (h : Heading) (definitions : List VariableDefinition)
    (body : NodeEvaluation Decision) (s : Progress) :
    env.collecting kind h definitions body s =
      match body { s with findings := {} } with
      | (.error e, s') => (.error e, { s' with findings := s.findings })
      | (.ok d, s') =>
        match env.conclude h definitions d s'.findings { s' with findings := s.findings } with
        | (.error e, s'') => (.error e, s'')
        | (.ok d', s'') => (.ok d', env.listed kind h d' s'') := by
  unfold collecting
  rw [bind_apply]
  unfold withFreshFindings
  rcases body { s with findings := {} } with ⟨e | d, s'⟩
  · rfl
  · simp only [Except.map]
    rw [bind_apply]
    rcases env.conclude h definitions d s'.findings { s' with findings := s.findings } with
      ⟨e | d', s''⟩
    · rfl
    · simp only [listed]
      cases env.collectPolicies && d' != .notApplicable <;> rfl

/-- The run of an algorithm over the children of a node. -/
def combineRun (a : CombiningAlgorithm) (h : Heading) (children : List (Child NodeEvaluation)) :
    NodeEvaluation Decision :=
  (a.plan children h.parameters env.version).run (fun i => (children.get i).evaluate)
    fun i => recording (children.get i).probe

/-- What an algorithm asks the children of a node. -/
def combineTranscript (a : CombiningAlgorithm) (h : Heading)
    (children : List (Child NodeEvaluation)) (s : Progress) : List (Event children.length) :=
  (a.plan children h.parameters env.version).transcript (fun i => (children.get i).evaluate)
    (fun i => recording (children.get i).probe) s

lemma combine_apply (h : Heading) (children : List (Child NodeEvaluation)) (targetFailed : Bool)
    (s : Progress) :
    env.combine h children targetFailed s = match env.algorithms.require h.algorithm with
      | .error e => (.error e, s)
      | .ok a =>
        ((env.combineRun a h children s).1.map
            (finalDecision env.version
              ((env.combineTranscript a h children s).any Event.applies) targetFailed),
          (env.combineRun a h children s).2) := by
  unfold combine
  rw [bind_apply, ofResult_apply]
  cases env.algorithms.require h.algorithm with
  | error e => rfl
  | ok a =>
    simp only
    rw [bind_apply, a.run_map noted (fun _ => rfl)]
    have hrun : ((a.plan children h.parameters env.version).run
        (fun i => (noted (children.get i)).evaluate)
        (fun i => (noted (children.get i)).probe)).run false s =
        ((env.combineRun a h children s).1.map fun d =>
            (d, (env.combineTranscript a h children s).any Event.applies),
          (env.combineRun a h children s).2) :=
      Plan.run_noted (fun i => (children.get i).evaluate) (fun i => (children.get i).probe)
        (a.plan children h.parameters env.version) false s
    rw [hrun]
    rcases env.combineRun a h children s with ⟨e | d, s'⟩ <;> rfl

lemma combine_eq_ok {h : Heading} {children : List (Child NodeEvaluation)} {targetFailed : Bool}
    {s s' : Progress} {d : Decision} (hrun : env.combine h children targetFailed s = (.ok d, s')) :
    ∃ a d₁, env.algorithms.require h.algorithm = .ok a ∧
      env.combineRun a h children s = (.ok d₁, s') ∧
      d = finalDecision env.version ((env.combineTranscript a h children s).any Event.applies)
        targetFailed d₁ := by
  rw [combine_apply] at hrun
  cases ha : env.algorithms.require h.algorithm with
  | error c =>
    rw [ha] at hrun
    cases hrun
  | ok a =>
    rw [ha] at hrun
    rcases hx : env.combineRun a h children s with ⟨c | d₁, s₁⟩
    · simp only [hx] at hrun
      cases hrun
    · simp only [hx] at hrun
      cases hrun
      exact ⟨a, d₁, rfl, hx, rfl⟩

section Rule

variable (p : Policy) (r : Rule) (s : Progress)

lemma concludeRule_apply :
    env.concludeRule p r s = if env.version.isExtended then
        match env.evaluateDuties p.definitions r.effect r.obligations r.advice s.known with
        | (.ok duties, known) =>
          (.ok r.effect.decision, { s with known, findings := s.findings.addDuties duties })
        | (.error (.evaluation e), known) =>
          (.ok (env.version.indeterminate r.effect), Progress.recorded { s with known } e)
        | (.error (.configuration e), known) => (.error e, { s with known })
      else (.ok r.effect.decision, s) := by
  unfold concludeRule
  cases env.version.isExtended with
  | false => rfl
  | true =>
    simp only [if_true]
    rw [bind_apply, outcome_apply]
    rcases env.evaluateDuties p.definitions r.effect r.obligations r.advice s.known with
      ⟨(_ | _) | _, _⟩ <;> rfl

lemma evaluateMatchingRule_apply :
    env.evaluateMatchingRule p r s = match r.condition with
      | none => env.concludeRule p r s
      | some condition =>
        match env.evaluateCondition p.definitions condition s.known with
        | (.ok true, known) => env.concludeRule p r { s with known }
        | (.ok false, known) => (.ok .notApplicable, { s with known })
        | (.error (.evaluation e), known) =>
          (.ok (env.version.indeterminate r.effect), Progress.recorded { s with known } e)
        | (.error (.configuration e), known) => (.error e, { s with known }) := by
  unfold evaluateMatchingRule
  cases r.condition with
  | none => rfl
  | some condition =>
    simp only
    rw [bind_apply, outcome_apply]
    rcases env.evaluateCondition p.definitions condition s.known with
      ⟨(_ | _) | _ | _, _⟩ <;> rfl

lemma evaluateRule_apply :
    env.evaluateRule p r s = match env.matchTarget (targetOf p r) with
      | .ok .isMatch => env.evaluateMatchingRule p r s
      | .ok .noMatch => (.ok .notApplicable, s)
      | .ok (.indeterminate e) => (.ok (env.version.indeterminate r.effect), s.recorded e)
      | .error e => (.error e, s) := by
  unfold evaluateRule
  rw [bind_apply, ofResult_apply]
  rcases env.matchTarget (targetOf p r) with _ | _ | _ | _ <;> rfl

variable {p r s} {s' : Progress} {d : Decision}

/-- A rule decides for its effect, since version 3.0 together with its duties, unless these cannot be
evaluated. -/
lemma concludeRule_eq_ok (hrun : env.concludeRule p r s = (.ok d, s')) :
    d = r.effect.decision ∧ (env.version.isExtended = false ∧ s' = s ∨
        ∃ duties known, env.version.isExtended = true ∧
          env.evaluateDuties p.definitions r.effect r.obligations r.advice s.known =
            (.ok duties, known) ∧
          s' = { s with known, findings := s.findings.addDuties duties }) ∨
      ∃ err known, env.evaluateDuties p.definitions r.effect r.obligations r.advice s.known =
          (.error (.evaluation err), known) ∧
        d = env.version.indeterminate r.effect ∧ s' = Progress.recorded { s with known } err := by
  rw [concludeRule_apply] at hrun
  cases hversion : env.version.isExtended with
  | false =>
    simp only [hversion] at hrun
    cases hrun
    exact Or.inl ⟨rfl, Or.inl ⟨rfl, rfl⟩⟩
  | true =>
    simp only [hversion, if_true] at hrun
    rcases hx : env.evaluateDuties p.definitions r.effect r.obligations r.advice s.known with
      ⟨(err | c) | duties, known⟩
    · simp only [hx] at hrun
      cases hrun
      exact Or.inr ⟨err, known, rfl, rfl, rfl⟩
    · simp only [hx] at hrun
      cases hrun
    · simp only [hx] at hrun
      cases hrun
      exact Or.inl ⟨rfl, Or.inr ⟨duties, known, rfl, rfl, rfl⟩⟩

/-- The condition of a rule is absent or true, and this is what is known of the variables after it. -/
def ConditionHolds (p : Policy) (r : Rule) (known known' : VariableStates) : Prop :=
  match r.condition with
  | none => known' = known
  | some c => env.evaluateCondition p.definitions c known = (.ok true, known')

/-- A rule is concluded if its target matches and its condition holds. Otherwise it decides for no
effect. -/
lemma evaluateRule_eq_ok (hrun : env.evaluateRule p r s = (.ok d, s')) :
    env.matchTarget (targetOf p r) = .ok .isMatch ∧ (∃ known,
        env.ConditionHolds p r s.known known ∧
          env.concludeRule p r { s with known } = (.ok d, s')) ∨
      d.effect? = none ∧ s'.findings = s.findings ∧ (s'.known = s.known ∨ ∃ c result,
        env.evaluateCondition p.definitions c s.known = (result, s'.known) ∧
          ∀ e, result ≠ .error (.configuration e)) := by
  unfold ConditionHolds
  rw [evaluateRule_apply] at hrun
  rcases htarget : env.matchTarget (targetOf p r) with c | _ | _ | err
  · rw [htarget] at hrun
    cases hrun
  · simp only [htarget, evaluateMatchingRule_apply] at hrun
    cases hcondition : r.condition with
    | none =>
      simp only [hcondition] at hrun
      exact Or.inl ⟨rfl, s.known, rfl, hrun⟩
    | some condition =>
      simp only [hcondition] at hrun
      rcases hx : env.evaluateCondition p.definitions condition s.known with
        ⟨(err | c) | _ | _, known⟩
      · simp only [hx] at hrun
        cases hrun
        exact Or.inr ⟨env.version.effect?_indeterminate _, rfl,
          Or.inr ⟨condition, _, hx, by simp⟩⟩
      · simp only [hx] at hrun
        cases hrun
      · simp only [hx] at hrun
        cases hrun
        exact Or.inr ⟨rfl, rfl, Or.inr ⟨condition, _, hx, by simp⟩⟩
      · simp only [hx] at hrun
        exact Or.inl ⟨rfl, known, hx, hrun⟩
  · rw [htarget] at hrun
    cases hrun
    exact Or.inr ⟨rfl, rfl, Or.inl rfl⟩
  · rw [htarget] at hrun
    cases hrun
    exact Or.inr ⟨env.version.effect?_indeterminate _, rfl, Or.inl rfl⟩

end Rule

/-- A policy without a target is decided by its algorithm. -/
lemma evaluatePolicy_of_untargeted {p : Policy} (htarget : p.heading.target = none) (s : Progress) :
    (env.evaluatePolicy p s).1 = (env.collecting .policy p.heading p.definitions
      (env.combine p.heading (p.rules.map (env.ruleChild p)) false) { s with known := ∅ }).1 := by
  have hmatch : env.matchTarget p.heading.target = .ok .isMatch := by
    rw [htarget]
    rfl
  have hfresh : ∀ x : NodeEvaluation Decision,
      (withFreshVariables x s).1 = (x { s with known := ∅ }).1 := fun _ => rfl
  rw [evaluatePolicy, hfresh, whenApplicable_apply, hmatch]

lemma resolvePolicy_apply (r : Reference) (s : Progress) :
    env.resolvePolicy r s =
      (.ok (if env.maxReferenceDepth ≤ s.followed then
          .error (.referenceTooDeep r.id env.maxReferenceDepth)
        else match env.repository.policy? r.id r.constraints with
          | some p => .ok p
          | none => .error (.referenceNotFound r.id)), s) := by
  unfold resolvePolicy checkDepth
  rw [bind_apply, bind_apply, get_apply]
  by_cases hd : env.maxReferenceDepth ≤ s.followed
  · simp [hd]
  · cases env.repository.policy? r.id r.constraints <;> simp [hd]

lemma resolvePolicySet_apply (r : Reference) (s : Progress) :
    env.resolvePolicySet r s =
      (.ok (if env.maxReferenceDepth ≤ s.followed then
          .error (.referenceTooDeep r.id env.maxReferenceDepth)
        else if s.enclosing.contains r.id then .error (.referenceCycle r.id)
        else match env.repository.policySet? r.id r.constraints with
          | some p => .ok p
          | none => .error (.referenceNotFound r.id)), s) := by
  unfold resolvePolicySet checkDepth checkCycle
  rw [bind_apply, bind_apply, get_apply]
  by_cases hd : env.maxReferenceDepth ≤ s.followed
  · simp [hd]
  · by_cases hc : r.id ∈ s.enclosing
    · simp [hd, hc, bind_apply]
    · cases env.repository.policySet? r.id r.constraints <;> simp [hd, hc, bind_apply]

variable {env} in
lemma policy?_of_resolvePolicy {r : Reference} {p : Policy} {s s' : Progress}
    (h : env.resolvePolicy r s = (.ok (.ok p), s')) :
    env.repository.policy? r.id r.constraints = some p := by
  rw [resolvePolicy_apply] at h
  split at h
  · cases h
  · split at h
    · cases h
      assumption
    · cases h

variable {env} in
lemma policySet?_of_resolvePolicySet {r : Reference} {p : PolicySet} {s s' : Progress}
    (h : env.resolvePolicySet r s = (.ok (.ok p), s')) :
    env.repository.policySet? r.id r.constraints = some p := by
  rw [resolvePolicySet_apply] at h
  split at h
  · cases h
  · split at h
    · cases h
    · split at h
      · cases h
        assumption
      · cases h

lemma follow_apply {α : Type} (resolved : NodeEvaluation (Outcome α))
    (evaluate : α → NodeEvaluation Decision) (s : Progress) :
    env.follow resolved evaluate s = match resolved s with
      | (.ok (.ok a), s') => behindReference (evaluate a) s'
      | (.ok (.error e), s') => (.ok (env.version.indeterminate none), s'.recorded e)
      | (.error e, s') => (.error e, s') := by
  unfold follow
  rw [bind_apply]
  rcases resolved s with ⟨_ | _ | _, _⟩ <;> rfl

/-- A reference that is followed leads nowhere, or what it leads to is evaluated. -/
lemma follow_eq_ok {α : Type} {resolved : NodeEvaluation (Outcome α)}
    {evaluate : α → NodeEvaluation Decision} {s s' : Progress} {d : Decision}
    (h : env.follow resolved evaluate s = (.ok d, s')) :
    (∃ err s₁, resolved s = (.ok (.error err), s₁) ∧ d = env.version.indeterminate none ∧
        s' = s₁.recorded err) ∨
      ∃ a s₁ s₂, resolved s = (.ok (.ok a), s₁) ∧
        evaluate a { s₁ with followed := s₁.followed + 1 } = (.ok d, s₂) ∧
        s' = { s₂ with followed := s₂.followed - 1 } := by
  rw [follow_apply] at h
  rcases hr : resolved s with ⟨c | err | a, s₁⟩
  · rw [hr] at h
    cases h
  · rw [hr] at h
    cases h
    exact Or.inl ⟨err, s₁, rfl, rfl, rfl⟩
  · rw [hr] at h
    obtain ⟨s₂, ha, hs'⟩ := behindReference_eq_ok h
    exact Or.inr ⟨a, s₁, s₂, rfl, ha, hs'⟩

end Environment
end PolicyDecision
