import PolicyDecision.Proofs.Attributes.Paths
import PolicyDecision.Proofs.Legacy.Combining
import PolicyDecision.Proofs.Node.Step
import PolicyDecision.Proofs.Reach

/-! A policy evaluated for a request of an older version and for the same request of version 3.0. -/

namespace PolicyDecision

open Stateful NodeEvaluation Environment Correspondence

/-- The result as an older version has it. -/
def EvaluationResult.toLegacy (r : EvaluationResult) : EvaluationResult :=
  { r with decision := r.decision.toLegacy }

namespace Environment

/-- The environment of the same request in version 3.0. -/
def extended (env : Environment) : Environment := { env with version := .v3_0 }

lemma result_toLegacy (d : Decision) (s : Progress) :
    result d.toLegacy s = (result d s).toLegacy := by
  simp [result, EvaluationResult.toLegacy]

section Older

variable {env : Environment} (hlegacy : env.version.isExtended = false)
include hlegacy

/-- Once some child applies, or none has to, only the effects of errors are forgotten. -/
lemma finalDecision_toLegacy {applied : Bool} {d : Decision}
    (hd : applied = false → d = .notApplicable) :
    finalDecision env.version applied false d.toLegacy =
      (finalDecision .v3_0 applied false d).toLegacy := by
  unfold finalDecision
  rw [hlegacy]
  cases applied with
  | true => rfl
  | false =>
    rw [hd rfl]
    rfl

omit hlegacy in
lemma failed_toLegacy {version : Version} (hlegacy : version.isExtended = false)
    (possible : Option Effect) (e : EvaluationError) :
    failed version possible e = Decision.toLegacy <$> failed .v3_0 possible e := by
  funext s
  rw [map_apply]
  simp only [failed, bind_apply, ← Version.indeterminate_toLegacy hlegacy]
  rfl

omit hlegacy in
lemma ofRule_evaluateRule {p : Policy} {r : Rule} {s s' : Progress} {d : Decision}
    (hrun : env.extended.evaluateRule p r s = (.ok d, s')) : d.OfRule r.effect := by
  have hindeterminate : env.extended.version.indeterminate (some r.effect) =
      r.effect.indeterminate := rfl
  have hconclude : ∀ s s', env.extended.concludeRule p r s = (.ok d, s') →
      d.OfRule r.effect := by
    intro s s' hrun
    rcases concludeRule_eq_ok _ hrun with ⟨rfl, -⟩ | ⟨err, known, -, rfl, -⟩
    · exact Or.inr (Or.inl rfl)
    · exact Or.inr (Or.inr hindeterminate)
  rw [evaluateRule_apply, evaluateMatchingRule_apply] at hrun
  split at hrun
  · split at hrun
    · exact hconclude _ _ hrun
    · split at hrun
      · exact hconclude _ _ hrun
      · cases hrun
        exact Or.inl rfl
      · cases hrun
        exact Or.inr (Or.inr hindeterminate)
      · cases hrun
  · cases hrun
    exact Or.inl rfl
  · cases hrun
    exact Or.inr (Or.inr hindeterminate)
  · cases hrun

variable (h : AnswersAlike (fun _ => True) env env.extended)

section Rule

variable {p : Policy} {r : Rule}

/-- Without duties a rule has nothing to do that depends on the version. -/
lemma concludeRule_toLegacy (hobligations : r.obligations = []) (hadvice : r.advice = []) :
    env.concludeRule p r = Decision.toLegacy <$> env.extended.concludeRule p r := by
  have hextended : env.extended.version.isExtended = true := rfl
  have hduties : ∀ known, env.extended.evaluateDuties p.definitions r.effect [] [] known =
      (.ok {}, known) := fun known => rfl
  funext s
  rw [map_apply, concludeRule_apply, concludeRule_apply, hlegacy, hextended, hobligations, hadvice,
    hduties]
  simp [Except.map, Findings.addDuties]

include h

lemma evaluateMatchingRule_toLegacy (hobligations : r.obligations = []) (hadvice : r.advice = []) :
    env.evaluateMatchingRule p r =
      Decision.toLegacy <$> env.extended.evaluateMatchingRule p r := by
  have hconclude := concludeRule_toLegacy hlegacy (p := p) hobligations hadvice
  unfold evaluateMatchingRule
  cases r.condition with
  | none => exact hconclude
  | some condition =>
    simp only [h.evaluateCondition_eq (fun _ _ => trivial) fun _ _ => trivial]
    rw [map_bind]
    congr 1
    funext result
    rcases result with e | _ | _
    · exact failed_toLegacy hlegacy _ e
    · rfl
    · exact hconclude

lemma evaluateRule_toLegacy (hobligations : r.obligations = []) (hadvice : r.advice = []) :
    env.evaluateRule p r = Decision.toLegacy <$> env.extended.evaluateRule p r := by
  unfold evaluateRule
  rw [h.matchTarget_eq fun _ _ => trivial, map_bind]
  congr 1
  funext m
  cases m with
  | isMatch => exact evaluateMatchingRule_toLegacy hlegacy h hobligations hadvice
  | noMatch => rfl
  | indeterminate e => exact failed_toLegacy hlegacy _ e

end Rule

section Policy

variable {p : Policy}
include h

lemma combine_toLegacy {a : StandardAlgorithm}
    (ha : env.algorithms.require p.heading.algorithm = .ok a.algorithm)
    (hagreeing : a ∈ StandardAlgorithm.agreeing)
    (hrules : ∀ r ∈ p.rules, r.obligations = [] ∧ r.advice = []) :
    env.combine p.heading (p.rules.map (env.ruleChild p)) false = Decision.toLegacy <$>
      env.extended.combine p.heading (p.rules.map (env.extended.ruleChild p)) false := by
  have ha' : env.extended.algorithms.require p.heading.algorithm = .ok a.algorithm := ha
  have hrule : ∀ i : Fin p.rules.length, (env.ruleChild p (p.rules.get i)).evaluate =
      Decision.toLegacy <$> (env.extended.ruleChild p (p.rules.get i)).evaluate := by
    intro i
    obtain ⟨hobligations, hadvice⟩ := hrules _ (p.rules.get_mem i)
    exact evaluateRule_toLegacy hlegacy h hobligations hadvice
  have hplan : Plan.Collapsed (fun i => (p.rules.get i).effect)
      (a.algorithm p.rules.length (fun i => (env.ruleChild p (p.rules.get i)).info)
        p.heading.parameters env.version)
      (a.algorithm p.rules.length (fun i => (env.extended.ruleChild p (p.rules.get i)).info)
        p.heading.parameters env.extended.version) :=
    StandardAlgorithm.collapsed hagreeing hlegacy (fun _ => rfl) _
  rw [combine_map _ _ ha, combine_map _ _ ha', hplan.runNoted_eq _
    (fun i => (env.extended.ruleChild p (p.rules.get i)).probe) hrule
    (fun i s d s' hd => ofRule_evaluateRule hd) false, bind_map_left, map_bind]
  funext s
  rw [bind_apply, bind_apply]
  split
  · rename_i q s' hq
    simp only [map_pure, Prod.map_fst, Prod.map_snd, id]
    rw [finalDecision_toLegacy hlegacy]
    · rfl
    · intro happlied
      obtain ⟨d, applied⟩ := q
      obtain rfl := happlied
      rw [(Plan.fallback_of_runNoted hq).2]
      exact StandardAlgorithm.fallback_eq hagreeing _
  · rfl

lemma conclude_toLegacy (heading : Heading) (definitions : List VariableDefinition) (d : Decision)
    (inner : Findings) : env.conclude heading definitions d.toLegacy inner =
      Decision.toLegacy <$> env.extended.conclude heading definitions d inner := by
  unfold conclude
  rw [Decision.effect?_toLegacy]
  cases d.effect? with
  | none => rfl
  | some e =>
    simp only [h.evaluateDuties_eq (fun _ _ => trivial) e fun _ _ => trivial]
    rw [map_bind]
    congr 1
    funext result
    cases result with
    | ok duties => rfl
    | error err => exact failed_toLegacy hlegacy _ err

/-- What is kept of the findings depends on the effect of the decision only. -/
lemma collecting_toLegacy (kind : PolicyKind) (heading : Heading)
    (definitions : List VariableDefinition) {body body' : NodeEvaluation Decision}
    (hbody : body = Decision.toLegacy <$> body') :
    env.collecting kind heading definitions body =
      Decision.toLegacy <$> env.extended.collecting kind heading definitions body' := by
  have hlisted : ∀ d s, env.listed kind heading d.toLegacy s =
      env.extended.listed kind heading d s := by
    intro d s
    have happlies : (d.toLegacy != .notApplicable) = (d != .notApplicable) :=
      Bool.eq_iff_iff.mpr (by simp)
    rw [listed, listed, happlies, Decision.effect?_toLegacy]
    rfl
  funext s
  rw [map_apply, collecting_apply, collecting_apply, hbody, map_apply]
  rcases body' { s with findings := {} } with ⟨c | d, s₁⟩
  · rfl
  · simp only [Except.map, conclude_toLegacy hlegacy h, map_apply]
    rcases env.extended.conclude heading definitions d s₁.findings
      { s₁ with findings := s.findings } with ⟨c | d', s₂⟩
    · rfl
    · simp only [hlisted]

variable {a : StandardAlgorithm} (ha : env.algorithms.require p.heading.algorithm = .ok a.algorithm)
  (hagreeing : a ∈ StandardAlgorithm.agreeing)
  (hrules : ∀ r ∈ p.rules, r.obligations = [] ∧ r.advice = [])
  (htarget : ∀ e, env.matchTarget p.heading.target ≠ .ok (.indeterminate e))
include ha hagreeing hrules htarget

lemma evaluatePolicy_toLegacy :
    env.evaluatePolicy p = Decision.toLegacy <$> env.extended.evaluatePolicy p := by
  have hbody := collecting_toLegacy hlegacy h .policy p.heading p.definitions
    (combine_toLegacy hlegacy h ha hagreeing hrules)
  funext s
  rw [map_apply, evaluatePolicy, evaluatePolicy, withFreshVariables, withFreshVariables,
    whenApplicable_apply, whenApplicable_apply, h.matchTarget_eq fun _ _ => trivial]
  rcases hm : env.matchTarget p.heading.target with c | _ | _ | e
  · rfl
  · simp only [hbody, map_apply]
    rfl
  · rfl
  · exact absurd hm (htarget e)

end Policy

end Older

/-- Version 3.0 decides as the older versions do about a policy by itself, but for the kinds of
indeterminate decisions. The policy's algorithm takes the first rule that applies, or lets one effect
override the other; the rules have no duties of their own; and the policy's own target can be
evaluated. The status, the obligations and the advice are the same, and so are the applicable
policies and the errors of the configuration. -/
theorem evaluateRoot_toLegacy {env : Environment} (hlegacy : env.version.isExtended = false)
    (hfunctions : env.functions = .standard) (hsource : env.source.Pathless) {p : Policy}
    {a : StandardAlgorithm} (ha : env.algorithms.require p.heading.algorithm = .ok a.algorithm)
    (hagreeing : a ∈ StandardAlgorithm.agreeing)
    (hrules : ∀ r ∈ p.rules, r.obligations = [] ∧ r.advice = [])
    (htarget : ∀ e, env.matchTarget p.heading.target ≠ .ok (.indeterminate e)) :
    env.evaluateRoot (.policy p) =
      (env.extended.evaluateRoot (.policy p)).map EvaluationResult.toLegacy := by
  have h : AnswersAlike (fun _ => True) env env.extended :=
    answersAlike_of_pathless hfunctions rfl hsource hsource rfl fun _ _ => rfl
  change (env.evaluatePolicy p {}).1.map (fun d => result d (env.evaluatePolicy p {}).2) =
    Except.map _ ((env.extended.evaluatePolicy p {}).1.map fun d =>
      result d (env.extended.evaluatePolicy p {}).2)
  rw [evaluatePolicy_toLegacy hlegacy h ha hagreeing hrules htarget, map_apply]
  rcases env.extended.evaluatePolicy p {} with ⟨c | d, s⟩
  · rfl
  · simp only [Except.map, result_toLegacy]

/-- A policy with a rule whose condition fails. -/
def failing : Policy where
  heading := {
    id := "failing"
    algorithm := StandardAlgorithm.ruleUri "1.0" "deny-overrides"
    obligations := [{ id := "log", effect := .permit }] }
  rules := [
    { id := "open", effect := .permit },
    { id := "closed", effect := .deny, condition := some (.literal ⟨DataType.string.uri, "x"⟩) }]

/-- The environment of a request of version 2.0. -/
def older : Environment where
  version := .v2_0
  source := Request.source { version := .v2_0 } none
  functions := .standard
  algorithms := AlgorithmRegistry.empty.register failing.heading.algorithm
    StandardAlgorithm.denyOverrides.algorithm
  repository := ⟨fun _ _ => none, fun _ _ => none⟩
  maxReferenceDepth := 32
  collectPolicies := true
  clock := none

theorem evaluateRoot_failing : older.functions = .standard ∧
    (older.evaluateRoot (.policy failing)).map (·.decision) = .ok .indeterminate ∧
    (older.extended.evaluateRoot (.policy failing)).map (·.decision) = .ok .indeterminateDP ∧
    older.evaluateRoot (.policy failing) =
      (older.extended.evaluateRoot (.policy failing)).map EvaluationResult.toLegacy := by
  have hlegacy : older.version.isExtended = false := rfl
  have hfunctions : older.functions = .standard := rfl
  have ha : older.algorithms.require failing.heading.algorithm =
      .ok StandardAlgorithm.denyOverrides.algorithm := rfl
  have htarget : ∀ e, older.matchTarget failing.heading.target ≠ .ok (.indeterminate e) := by
    intro e h
    cases h
  exact ⟨hfunctions, by decide +kernel, by decide +kernel,
    evaluateRoot_toLegacy hlegacy hfunctions (Request.pathless_source _) ha (by decide) (by decide)
      htarget⟩

end Environment

end PolicyDecision
