import PolicyDecision.Proofs.Combining.Inheritance
import PolicyDecision.Proofs.Correspondence.Tree
import PolicyDecision.Proofs.Explanation.Expression

/-! An indeterminate decision comes with a recorded error, which is explicit. -/

namespace PolicyDecision

open Stateful NodeEvaluation Environment

/-- The errors that the state keeps are explicit, and one of them is recorded if something has
failed. So many references are open. -/
structure Progress.Explicit (failed : Prop) (opened : ℕ) (s : Progress) : Prop where
  known : VariableStates.OnlyFaults Fault.IsExplicit s.known
  first : ∀ e, s.firstError = some e → e.isExplicit = true
  recorded : failed → s.firstError.isSome = true
  opened : s.followed = opened

namespace Progress

variable {failed failed' : Prop} {opened : ℕ} {s : Progress}

lemma Explicit.imp (h : s.Explicit failed opened) (himp : failed' → failed) :
    s.Explicit failed' opened := ⟨h.known, h.first, fun hf => h.recorded (himp hf), h.opened⟩

/-- An error recorded before stays the first one. -/
lemma Explicit.recording (h : s.Explicit failed opened) {e : EvaluationError}
    (he : e.isExplicit = true) : (s.recorded e).Explicit True opened := by
  refine ⟨h.known, fun e' he' => ?_, fun _ => ?_, h.opened⟩
  · unfold Progress.recorded at he'
    exact explicit_or h.first he e' he'
  · unfold Progress.recorded
    cases s.firstError <;> rfl

end Progress

namespace NodeEvaluation

variable {strict failed : Prop} {opened : ℕ}

/-- From an explicit state, the evaluation leads to an explicit state, in which an error is recorded
if the evaluation is strict and indeterminate. -/
def Explains (strict : Prop) (opened : ℕ) (x : NodeEvaluation Decision) : Prop :=
  ∀ failed, Establishes (Progress.Explicit failed opened) x fun d =>
    Progress.Explicit (failed ∨ strict ∧ d.isIndeterminate = true) opened

lemma explains_pure {d : Decision} (hd : d.isIndeterminate = false) :
    Explains strict opened (pure d) := by
  intro failed
  refine establishes_pure fun s hs => hs.imp ?_
  rintro (hf | ⟨-, hi⟩)
  · exact hf
  · rw [hd] at hi
    cases hi

lemma establishes_failed (version : Version) (possible : Option Effect) (e : EvaluationError) :
    Establishes (fun s => s.Explicit failed opened ∧ e.isExplicit = true)
      (NodeEvaluation.failed version possible e) fun d =>
        Progress.Explicit (failed ∨ strict ∧ d.isIndeterminate = true) opened := by
  intro s d s' hs hrun
  cases hrun
  exact (hs.1.recording hs.2).imp fun _ => trivial

lemma establishes_outcome {α : Type} {x : Evaluation α} (hx : x.Explains) :
    Establishes (Progress.Explicit failed opened) (outcome x) fun r s =>
      s.Explicit failed opened ∧ ∀ e, r = .error e → e.isExplicit = true := by
  intro s r s' hs hrun
  obtain ⟨hknown, herror⟩ := hx s.known hs.known
  rw [outcome_apply] at hrun
  rcases hv : x s.known with ⟨(e | c) | a, known⟩
  · rw [hv] at hrun hknown herror
    cases hrun
    refine ⟨⟨hknown, hs.first, hs.recorded, hs.opened⟩, fun e' he' => ?_⟩
    cases he'
    exact herror _ rfl
  · rw [hv] at hrun
    cases hrun
  · rw [hv] at hrun hknown
    cases hrun
    exact ⟨⟨hknown, hs.first, hs.recorded, hs.opened⟩, fun e he => nomatch he⟩

lemma establishes_modifyFindings (f : Findings → Findings) :
    Establishes (Progress.Explicit failed opened) (modifyFindings f) fun _ =>
      Progress.Explicit failed opened := by
  intro s u s' hs hrun
  cases hrun
  exact ⟨hs.known, hs.first, hs.recorded, hs.opened⟩

section Within

variable {x : NodeEvaluation Decision}

lemma explains_withFreshVariables (h : Explains strict opened x) :
    Explains strict opened (withFreshVariables x) := by
  intro failed s d s' hs hrun
  obtain ⟨s₁, hx, rfl⟩ := withFreshVariables_eq_ok hrun
  have hstart : Progress.Explicit failed opened { s with known := ∅ } :=
    ⟨VariableStates.onlyFaults_empty, hs.first, hs.recorded, hs.opened⟩
  have h₁ := h failed _ d s₁ hstart hx
  exact ⟨hs.known, h₁.first, h₁.recorded, h₁.opened⟩

lemma establishes_withinSet {Q : Decision → Prop} (h : Establishes (Progress.Explicit failed opened)
      x fun d => Progress.Explicit (Q d) opened) (id : String) :
    Establishes (Progress.Explicit failed opened) (withinSet id x) fun d =>
      Progress.Explicit (Q d) opened := by
  intro s d s' hs hrun
  obtain ⟨s₁, hx, rfl⟩ := withinSet_eq_ok hrun
  have hstart : Progress.Explicit failed opened { s with enclosing := id :: s.enclosing } :=
    ⟨hs.known, hs.first, hs.recorded, hs.opened⟩
  have h₁ := h _ d s₁ hstart hx
  exact ⟨h₁.known, h₁.first, h₁.recorded, h₁.opened⟩

lemma explains_behindReference (h : Explains strict (opened + 1) x) :
    Explains strict opened (behindReference x) := by
  intro failed s d s' hs hrun
  obtain ⟨s₁, hx, rfl⟩ := behindReference_eq_ok hrun
  have hstart : Progress.Explicit failed (opened + 1) { s with followed := s.followed + 1 } :=
    ⟨hs.known, hs.first, hs.recorded, congrArg (· + 1) hs.opened⟩
  have h₁ := h failed _ d s₁ hstart hx
  exact ⟨h₁.known, h₁.first, h₁.recorded, congrArg (· - 1) h₁.opened⟩

end Within

/-- A probe that only looks, and says why it could not. -/
def Looks (x : NodeEvaluation MatchResult) : Prop :=
  ∀ s m s', x s = (.ok m, s') → s' = s ∧ m.Explicit

lemma establishes_recording {x : NodeEvaluation MatchResult} (hx : Looks x) :
    Establishes (Progress.Explicit failed opened) (recording x) fun m =>
      Progress.Explicit (failed ∨ m.isIndeterminate = true) opened := by
  intro s m s' hs hrun
  rw [recording_apply] at hrun
  split at hrun
  · rename_i e s₁ hs₁
    obtain ⟨rfl, hm⟩ := hx s _ s₁ hs₁
    cases hrun
    exact (hs.recording (hm e rfl)).imp fun _ => trivial
  · rename_i m' s₁ hnot hs₁
    obtain ⟨rfl, -⟩ := hx s m' s₁ hs₁
    cases hrun
    refine hs.imp ?_
    rintro (hf | hi)
    · exact hf
    · cases m with
      | indeterminate e => exact absurd rfl (hnot e)
      | _ => cases hi
  · cases hrun

end NodeEvaluation

/-- A run over children that explain themselves does so too, if its plan is indeterminate only when
they are. -/
lemma Plan.establishes_run {n : ℕ} {strict : Prop} {opened : ℕ}
    {evaluate : Fin n → NodeEvaluation Decision} {probe : Fin n → NodeEvaluation MatchResult}
    (hevaluate : ∀ i, Explains strict opened (evaluate i)) (hprobe : ∀ i, Looks (probe i))
    (plan : Plan n) (failed : Prop) :
    Establishes (Progress.Explicit failed opened) (plan.run evaluate fun i => recording (probe i))
      fun d => Progress.Explicit
        (failed ∨ (strict ∧ plan.Inherits) ∧ d.isIndeterminate = true) opened := by
  induction plan generalizing failed with
  | decide d =>
    refine establishes_pure fun s hs => hs.imp ?_
    rintro (hf | ⟨⟨-, hinherits⟩, hd⟩)
    · exact hf
    · rw [show d.isIndeterminate = false from hinherits] at hd
      cases hd
  | evaluate i next ih =>
    refine establishes_bind (hevaluate i failed) fun d => ?_
    refine (ih d _).imp fun d' s hs => hs.imp ?_
    rintro (hf | ⟨⟨hstrict, hinherits⟩, hd'⟩)
    · exact Or.inl (Or.inl hf)
    · cases hd : d.isIndeterminate with
      | true => exact Or.inl (Or.inr ⟨hstrict, rfl⟩)
      | false => exact Or.inr ⟨⟨hstrict, hinherits d hd⟩, hd'⟩
  | probe i next ih =>
    refine establishes_bind (establishes_recording (hprobe i)) fun m => ?_
    refine (ih m _).imp fun d' s hs => hs.imp ?_
    rintro (hf | ⟨⟨hstrict, hinherits⟩, hd'⟩)
    · exact Or.inl (Or.inl hf)
    · cases hm : m.isIndeterminate with
      | true => exact Or.inl (Or.inr rfl)
      | false => exact Or.inr ⟨⟨hstrict, hinherits m hm⟩, hd'⟩

namespace Environment

variable {env : Environment} (henv : env.Unaided) {strict failed : Prop} {opened : ℕ}

/-- A decision that is weakened comes from a target that failed. -/
lemma isIndeterminate_finalDecision {version : Version} {applied targetFailed : Bool}
    {d : Decision}
    (h : (finalDecision version applied targetFailed d).isIndeterminate = true) :
    targetFailed = true ∨ d.isIndeterminate = true := by
  unfold finalDecision at h
  split at h
  · cases h
  · cases targetFailed with
    | true => exact Or.inl rfl
    | false => exact Or.inr h

include henv

lemma looks_matchTarget (target : Option Target) : Looks (ofResult (env.matchTarget target)) := by
  intro s m s' hrun
  obtain ⟨hm, rfl⟩ := Prod.mk.inj ((ofResult_apply _ s).symm.trans hrun)
  exact ⟨rfl, explicit_matchTarget henv hm⟩

lemma establishes_matchTarget (target : Option Target) :
    Establishes (Progress.Explicit failed opened) (ofResult (env.matchTarget target)) fun m s =>
      s.Explicit failed opened ∧ m.Explicit := by
  intro s m s' hs hrun
  obtain ⟨rfl, hm⟩ := looks_matchTarget henv target s m s' hrun
  exact ⟨hs, hm⟩

section Rule

variable (p : Policy) (r : Rule)

lemma explains_concludeRule : Explains strict opened (env.concludeRule p r) := by
  have hdecision : Explains strict opened (pure r.effect.decision) :=
    explains_pure r.effect.isIndeterminate_decision
  unfold concludeRule
  split
  · intro failed
    refine establishes_bind (establishes_outcome (explains_duties henv _ _ _ _)) fun result => ?_
    cases result with
    | ok duties =>
      refine Establishes.of_imp ?_ fun _ hs => hs.1
      exact establishes_bind (establishes_modifyFindings _) fun _ => hdecision failed
    | error e =>
      exact (establishes_failed _ _ e).of_imp fun _ hs => ⟨hs.1, hs.2 e rfl⟩
  · exact hdecision

lemma explains_evaluateMatchingRule : Explains strict opened (env.evaluateMatchingRule p r) := by
  have hconclude : Explains strict opened (env.concludeRule p r) :=
    explains_concludeRule henv p r
  unfold evaluateMatchingRule
  cases r.condition with
  | none => exact hconclude
  | some condition =>
    intro failed
    refine establishes_bind (establishes_outcome (explains_condition henv _ condition))
      fun result => ?_
    rcases result with e | _ | _
    · exact (establishes_failed _ _ e).of_imp fun _ hs => ⟨hs.1, hs.2 e rfl⟩
    · exact (explains_pure rfl failed).of_imp fun _ hs => hs.1
    · exact (hconclude failed).of_imp fun _ hs => hs.1

lemma explains_evaluateRule : Explains strict opened (env.evaluateRule p r) := by
  intro failed
  refine establishes_bind (establishes_matchTarget henv _) fun m => ?_
  cases m with
  | isMatch =>
    exact (explains_evaluateMatchingRule henv p r failed).of_imp fun _ hs => hs.1
  | noMatch => exact (explains_pure rfl failed).of_imp fun _ hs => hs.1
  | indeterminate e =>
    exact (establishes_failed _ _ e).of_imp fun _ hs => ⟨hs.1, hs.2 e rfl⟩

end Rule

section Heading

variable {h : Heading} {definitions : List VariableDefinition}

/-- A node whose duties fail becomes indeterminate, and the failure is recorded. -/
lemma establishes_conclude {d : Decision} {inner : Findings}
    (hd : strict ∧ d.isIndeterminate = true → failed) :
    Establishes (Progress.Explicit failed opened) (env.conclude h definitions d inner) fun d' =>
      Progress.Explicit (failed ∨ strict ∧ d'.isIndeterminate = true) opened := by
  have hpure : Establishes (Progress.Explicit failed opened) (pure d : NodeEvaluation Decision)
      fun d' => Progress.Explicit (failed ∨ strict ∧ d'.isIndeterminate = true) opened :=
    establishes_pure fun s hs => hs.imp fun hf => hf.elim id hd
  unfold conclude
  cases d.effect? with
  | none => exact hpure
  | some effect =>
    refine establishes_bind (establishes_outcome (explains_duties henv _ _ _ _)) fun result => ?_
    cases result with
    | ok duties =>
      refine Establishes.of_imp ?_ fun _ hs => hs.1
      exact establishes_bind (establishes_modifyFindings _) fun _ => hpure
    | error e =>
      exact (establishes_failed _ _ e).of_imp fun _ hs => ⟨hs.1, hs.2 e rfl⟩

lemma establishes_collecting (kind : PolicyKind) {body : NodeEvaluation Decision}
    (hbody : Establishes (Progress.Explicit failed opened) body fun d =>
      Progress.Explicit (failed ∨ strict ∧ d.isIndeterminate = true) opened) :
    Establishes (Progress.Explicit failed opened) (env.collecting kind h definitions body)
      fun d => Progress.Explicit (failed ∨ strict ∧ d.isIndeterminate = true) opened := by
  intro s d s' hs hrun
  have hstart : Progress.Explicit failed opened { s with findings := {} } :=
    ⟨hs.known, hs.first, hs.recorded, hs.opened⟩
  rw [collecting_apply] at hrun
  rcases hx : body { s with findings := {} } with ⟨c | d₁, s₁⟩
  · rw [hx] at hrun
    cases hrun
  · rw [hx] at hrun
    have h₁ := hbody _ d₁ s₁ hstart hx
    have hafter : Progress.Explicit (failed ∨ strict ∧ d₁.isIndeterminate = true) opened
        { s₁ with findings := s.findings } := ⟨h₁.known, h₁.first, h₁.recorded, h₁.opened⟩
    rcases hy : env.conclude h definitions d₁ s₁.findings { s₁ with findings := s.findings } with
      ⟨c | d₂, s₂⟩
    · simp only [hy] at hrun
      cases hrun
    · simp only [hy] at hrun
      have hconclude : Establishes
          (Progress.Explicit (failed ∨ strict ∧ d₁.isIndeterminate = true) opened)
          (env.conclude h definitions d₁ s₁.findings) fun d' => Progress.Explicit
            ((failed ∨ strict ∧ d₁.isIndeterminate = true) ∨ strict ∧ d'.isIndeterminate = true)
            opened := establishes_conclude henv Or.inr
      have h₂ := (hconclude _ d₂ s₂ hafter hy).imp (Or.imp_left Or.inl)
      obtain ⟨hd, rfl⟩ := Prod.mk.inj hrun
      cases hd
      unfold listed
      split
      · exact ⟨h₂.known, h₂.first, h₂.recorded, h₂.opened⟩
      · exact h₂

/-- The body is told when the target has failed, and then an error has been recorded. -/
lemma explains_whenApplicable {body : Bool → NodeEvaluation Decision}
    (hbody : ∀ targetFailed failed, (targetFailed = true → failed) →
      Establishes (Progress.Explicit failed opened) (body targetFailed) fun d =>
        Progress.Explicit (failed ∨ strict ∧ d.isIndeterminate = true) opened) :
    Explains strict opened (env.whenApplicable h body) := by
  intro failed
  refine establishes_bind (establishes_matchTarget henv _) fun m => ?_
  cases m with
  | isMatch => exact (hbody false failed (by simp)).of_imp fun _ hs => hs.1
  | noMatch => exact (explains_pure rfl failed).of_imp fun _ hs => hs.1
  | indeterminate e =>
    simp only
    split
    · refine establishes_bind (Q := fun _ => Progress.Explicit True opened) ?_ fun _ => ?_
      · intro s u s' hs hrun
        cases hrun
        exact hs.1.recording (hs.2 e rfl)
      · exact (hbody true True fun _ => trivial).imp fun d s hs => hs.imp fun _ => Or.inl trivial
    · exact (establishes_failed _ _ e).of_imp fun _ hs => ⟨hs.1, hs.2 e rfl⟩

omit henv in
lemma establishes_combine {children : List (Child NodeEvaluation)} {targetFailed : Bool}
    (hchildren : ∀ c ∈ children, Explains strict opened c.evaluate ∧ Looks c.probe)
    (hinherits : strict → ∀ a, env.algorithms.require h.algorithm = .ok a → a.Inherits)
    (htarget : targetFailed = true → failed) :
    Establishes (Progress.Explicit failed opened) (env.combine h children targetFailed) fun d =>
      Progress.Explicit (failed ∨ strict ∧ d.isIndeterminate = true) opened := by
  intro s d s' hs hrun
  obtain ⟨a, d₁, ha, hd₁, rfl⟩ := env.combine_eq_ok hrun
  have hplan := Plan.establishes_run
    (fun i => (hchildren (children.get i) (children.get_mem i)).1)
    (fun i => (hchildren (children.get i) (children.get_mem i)).2)
    (a.plan children h.parameters env.version) failed s d₁ s' hs hd₁
  refine hplan.imp ?_
  rintro (hf | ⟨hstrict, hd⟩)
  · exact Or.inl hf
  · rcases isIndeterminate_finalDecision hd with htf | hd₁
    · exact Or.inl (htarget htf)
    · exact Or.inr ⟨⟨hstrict, hinherits hstrict a ha _ _ _ _⟩, hd₁⟩

lemma explains_evaluatePolicy {p : Policy} (hinherits : strict →
      ∀ a, env.algorithms.require p.heading.algorithm = .ok a → a.Inherits) :
    Explains strict opened (env.evaluatePolicy p) := by
  refine explains_withFreshVariables (explains_whenApplicable henv fun _ _ hf => ?_)
  refine establishes_collecting henv .policy (establishes_combine (fun c hc => ?_) hinherits hf)
  obtain ⟨r, -, rfl⟩ := List.mem_map.mp hc
  exact ⟨explains_evaluateRule henv p r, looks_matchTarget henv _⟩

lemma explains_evaluateSet {children : List (Child NodeEvaluation)}
    (hchildren : ∀ c ∈ children, Explains strict opened c.evaluate ∧ Looks c.probe)
    (hinherits : strict → ∀ a, env.algorithms.require h.algorithm = .ok a → a.Inherits) :
    Explains strict opened (env.evaluateSet h children) :=
  explains_whenApplicable henv fun _ _ hf =>
    establishes_withinSet (establishes_collecting henv .policySet
      (establishes_combine hchildren hinherits hf)) h.id

end Heading

end Environment

end PolicyDecision
