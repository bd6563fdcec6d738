import PolicyDecision.Proofs.Combining.Calls
import PolicyDecision.Proofs.Combining.Registry
import PolicyDecision.Proofs.Reference.Transparency
import PolicyDecision.Proofs.Spelling.Expression

/-! Rules, policies and policy sets in canonical form. -/

namespace PolicyDecision

open Stateful Environment

namespace Plan

variable {n : ℕ}

/-- The plan goes on in one way with all targets that cannot be evaluated. -/
inductive Heedless : Plan n → Prop
  | decide (d : Decision) : Heedless (.decide d)
  | evaluate (i : Fin n) {next : Decision → Plan n} (h : ∀ d, Heedless (next d)) :
    Heedless (.evaluate i next)
  | probe (i : Fin n) {next : MatchResult → Plan n} (h : ∀ m, Heedless (next m))
      (alike : ∀ e e', next (.indeterminate e) = next (.indeterminate e')) :
    Heedless (.probe i next)

/-- A plan that looks at no target does. -/
lemma AsksUntil.heedless {settles : Decision → Prop} {is : List (Fin n)} {plan : Plan n}
    (h : plan.AsksUntil settles is) : plan.Heedless := by
  induction h with
  | decide d => exact .decide d
  | evaluate stop _ ih =>
    refine .evaluate _ fun d => ?_
    by_cases hd : settles d
    · obtain ⟨d', hnext⟩ := stop d hd
      rw [hnext]
      exact .decide d'
    · exact ih d hd

end Plan

lemma Combining.heedless_onlyOneApplicableOf (version : Version) {n : ℕ} (matched : Option (Fin n))
    (is : List (Fin n)) : (onlyOneApplicableOf version matched is).Heedless := by
  induction is generalizing matched with
  | nil =>
    cases matched with
    | none => exact .decide _
    | some i => exact .evaluate i fun d => .decide _
  | cons i is ih =>
    rw [onlyOneApplicableOf]
    refine .probe i (fun m => ?_) fun _ _ => rfl
    cases m with
    | isMatch =>
      cases matched with
      | none => exact ih (some i)
      | some j => exact .decide _
    | noMatch => exact ih matched
    | indeterminate e => exact .decide _

namespace StandardAlgorithm

variable (a : StandardAlgorithm) {n : ℕ} (info : Fin n → ChildInfo) (parameters : List Parameter)
  (version : Version)

lemma heedless_algorithm : (a.algorithm n info parameters version).Heedless := by
  by_cases ha : a = onlyOneApplicable
  · subst ha
    exact Combining.heedless_onlyOneApplicableOf version none _
  · exact (asksUntil ha info parameters version).heedless

/-- The standard algorithms have no parameters. -/
lemma algorithm_of_parameters (parameters' : List Parameter) :
    a.algorithm n info parameters version = a.algorithm n info parameters' version := by
  cases a <;> rfl

end StandardAlgorithm

lemma AlgorithmRegistry.exists_standard {uri : String} {a : CombiningAlgorithm}
    (h : standard.require uri = .ok a) : ∃ s : StandardAlgorithm, a = s.algorithm := by
  rw [require_standard] at h
  cases hs : StandardAlgorithm.library.lookup uri with
  | none =>
    rw [hs] at h
    cases h
  | some s =>
    rw [hs] at h
    exact ⟨s, (Except.ok.inj h).symm⟩

def Progress.canonical (s : Progress) : Progress :=
  { s with
    known := s.known.map VariableState.canonical
    firstError := s.firstError.map .canonical }

namespace NodeEvaluation

/-- States as they are when all is in canonical form; errors of the configuration do not change. -/
def spelling : Rewriting ConfigurationError Progress := ⟨id, Progress.canonical⟩

variable {α β : Type} {value : α → β} {x : NodeEvaluation α} {y : NodeEvaluation β}

lemma carries_ofResult {r : Except ConfigurationError α} {r' : Except ConfigurationError β}
    (h : r' = r.map value) : spelling.Carries value (ofResult r) (ofResult r') := by
  subst h
  refine carries_of_stateless (fun _ => rfl) fun s => ?_
  cases r <;> rfl

lemma carries_outcome {x : Evaluation α} {y : Evaluation β}
    (h : Evaluation.spelling.Carries value x y) :
    spelling.Carries (rewritten EvaluationError.canonical value) (outcome x) (outcome y) := by
  intro s
  have hknown : y s.canonical.known =
      (rewritten Fault.canonical value (x s.known).1,
        (x s.known).2.map VariableState.canonical) := h s.known
  change outcome y s.canonical = _
  rw [outcome_apply, outcome_apply, hknown]
  rcases x s.known with ⟨(_ | _) | _, _⟩ <;> rfl

lemma carries_record (e : EvaluationError) :
    spelling.Carries id (record e) (record e.canonical) := by
  refine carries_modify fun s => ?_
  cases hs : s.firstError <;> simp [spelling, Progress.canonical, hs]

lemma carries_modifyFindings (f : Findings → Findings) :
    spelling.Carries id (modifyFindings f) (modifyFindings f) := carries_modify fun _ => rfl

lemma carries_failed (version : Version) (possible : Option Effect) (e : EvaluationError) :
    spelling.Carries id (failed version possible e) (failed version possible e.canonical) :=
  carries_bind (carries_record e) fun _ => carries_pure _

lemma carries_withFreshVariables (h : spelling.Carries value x y) :
    spelling.Carries value (withFreshVariables x) (withFreshVariables y) :=
  carries_scoped (fun s : Progress => { s with known := ∅ })
    (fun s t : Progress => { t with known := s.known }) h (fun _ => rfl) fun _ _ => rfl

lemma carries_withFreshFindings (h : spelling.Carries value x y) :
    spelling.Carries (Prod.map value id) (withFreshFindings x) (withFreshFindings y) := by
  intro s
  have hfresh := h { s with findings := {} }
  unfold withFreshFindings
  rw [show { spelling.state s with findings := {} } = spelling.state { s with findings := {} }
    from rfl, hfresh]
  rcases x { s with findings := {} } with ⟨_ | _, _⟩ <;> rfl

lemma carries_withinSet (id : String) (h : spelling.Carries value x y) :
    spelling.Carries value (withinSet id x) (withinSet id y) :=
  carries_scoped (fun s : Progress => { s with enclosing := id :: s.enclosing })
    (fun _ t : Progress => { t with enclosing := t.enclosing.tail }) h (fun _ => rfl) fun _ _ => rfl

lemma carries_behindReference (h : spelling.Carries value x y) :
    spelling.Carries value (behindReference x) (behindReference y) :=
  carries_scoped (fun s : Progress => { s with followed := s.followed + 1 })
    (fun _ t : Progress => { t with followed := t.followed - 1 }) h (fun _ => rfl) fun _ _ => rfl

lemma carries_recording {x y : NodeEvaluation MatchResult}
    (h : spelling.Carries MatchResult.canonical x y) :
    spelling.Carries MatchResult.canonical (recording x) (recording y) := by
  refine carries_bind h fun m => ?_
  cases m with
  | isMatch => exact carries_pure _
  | noMatch => exact carries_pure _
  | indeterminate e => exact carries_bind (carries_record e) fun _ => carries_pure _

lemma carries_noteDecision {x y : NodeEvaluation Decision} (h : spelling.Carries id x y)
    (applied : Bool) : spelling.Carries id (noteDecision x applied) (noteDecision y applied) := by
  rw [noteDecision_eq_bind, noteDecision_eq_bind]
  exact carries_bind h fun d => carries_pure _

lemma carries_noteMatch {x y : NodeEvaluation MatchResult}
    (h : spelling.Carries MatchResult.canonical x y) (applied : Bool) :
    spelling.Carries (Prod.map MatchResult.canonical id) (noteMatch x applied)
      (noteMatch y applied) := by
  rw [noteMatch_eq_bind, noteMatch_eq_bind]
  refine carries_bind (carries_recording h) fun m => ?_
  have hmatches : (m.canonical != .noMatch) = (m != .noMatch) := by
    cases m <;> rfl
  rw [hmatches]
  exact carries_pure (m, applied || (m != .noMatch))

end NodeEvaluation

open NodeEvaluation

namespace Plan

variable {n : ℕ} {evaluate evaluate' : Fin n → NodeEvaluation Decision}
  {probe probe' : Fin n → NodeEvaluation MatchResult}

/-- Children that decide as before lead to the decision from before. -/
lemma Heedless.carries_runNoted {plan : Plan n} (hplan : plan.Heedless)
    (hevaluate : ∀ i, spelling.Carries id (evaluate i) (evaluate' i))
    (hprobe : ∀ i, spelling.Carries MatchResult.canonical (probe i) (probe' i)) (applied : Bool) :
    spelling.Carries id (plan.runNoted evaluate probe applied)
      (plan.runNoted evaluate' probe' applied) := by
  induction hplan generalizing applied with
  | decide d => exact carries_pure (d, applied)
  | evaluate i _ ih =>
    rw [runNoted_evaluate, runNoted_evaluate]
    exact carries_bind (carries_noteDecision (hevaluate i) applied) fun p => ih p.1 p.2
  | @probe i next _ alike ih =>
    rw [runNoted_probe, runNoted_probe]
    refine carries_bind (carries_noteMatch (hprobe i) applied) fun p => ?_
    have hnext : next p.1.canonical = next p.1 := by
      cases p.1 with
      | isMatch => rfl
      | noMatch => rfl
      | indeterminate e => exact alike _ _
    rw [Prod.map_fst, Prod.map_snd, hnext]
    exact ih p.1 p.2

end Plan

namespace Environment

variable {env env' : Environment} (h : env.Spells env')
include h

section Heading

variable (heading : Heading) (definitions : List VariableDefinition)

/-- Children of the same kinds that answer as before are combined as before. -/
lemma Spells.combine_eq (halgorithms : env.algorithms = .standard) {α : Type}
    {child child' : α → Child NodeEvaluation} {l : List α}
    (hhint : ∀ a, (child a).info.hint = (child' a).info.hint)
    (hevaluate : ∀ a ∈ l, spelling.Carries id (child a).evaluate (child' a).evaluate)
    (hprobe : ∀ a ∈ l, spelling.Carries MatchResult.canonical (child a).probe (child' a).probe)
    (targetFailed : Bool) :
    spelling.Carries id (env.combine heading (l.map child) targetFailed)
      (env'.combine heading.canonical (l.map child') targetFailed) := by
  cases ha : env.algorithms.require heading.algorithm with
  | error e =>
    refine carries_of_stateless (r := .error e) (fun s => ?_) fun s => ?_
    · rw [combine_apply, ha]
    · rw [combine_apply, h.algorithms,
        show heading.canonical.algorithm = heading.algorithm from rfl, ha]
      rfl
  | ok a =>
    obtain ⟨standard, rfl⟩ := AlgorithmRegistry.exists_standard (halgorithms ▸ ha)
    have ha' : env'.algorithms.require heading.canonical.algorithm = .ok standard.algorithm :=
      h.algorithms ▸ ha
    rw [Correspondence.combine_map child l ha, Correspondence.combine_map child' l ha', h.version,
      standard.algorithm_of_parameters _ heading.canonical.parameters _ heading.parameters,
      ← standard.algorithm_of_hints fun i => hhint (l.get i)]
    refine carries_bind ?_ fun p => carries_pure _
    exact (standard.heedless_algorithm _ _ _).carries_runNoted
      (fun i => hevaluate _ (l.get_mem i)) (fun i => hprobe _ (l.get_mem i)) false

lemma Spells.conclude_eq (decision : Decision) (inner : Findings) :
    spelling.Carries id (env.conclude heading definitions decision inner)
      (env'.conclude heading.canonical (definitions.map .canonical) decision inner) := by
  unfold conclude
  cases decision.effect? with
  | none => exact carries_pure decision
  | some effect =>
    refine carries_bind (carries_outcome
      (h.evaluateDuties_eq definitions effect heading.obligations heading.advice)) fun result => ?_
    cases result with
    | error e =>
      rw [h.version]
      exact carries_failed env.version (some effect) e
    | ok duties => exact carries_bind (carries_modifyFindings _) fun _ => carries_pure decision

lemma Spells.collecting_eq (kind : PolicyKind) {body body' : NodeEvaluation Decision}
    (hbody : spelling.Carries id body body') :
    spelling.Carries id (env.collecting kind heading definitions body)
      (env'.collecting kind heading.canonical (definitions.map .canonical) body') := by
  refine carries_bind (carries_withFreshFindings hbody) fun p => ?_
  refine carries_bind (h.conclude_eq heading definitions p.1 p.2) fun d => ?_
  rw [h.collectPolicies]
  simp only [id]
  split
  · exact carries_bind (carries_modifyFindings _) fun _ => carries_pure d
  · exact carries_pure d

lemma Spells.whenApplicable_eq {body body' : Bool → NodeEvaluation Decision}
    (hbody : ∀ targetFailed, spelling.Carries id (body targetFailed) (body' targetFailed)) :
    spelling.Carries id (env.whenApplicable heading body)
      (env'.whenApplicable heading.canonical body') := by
  refine carries_bind (carries_ofResult (h.matchTarget_eq heading.target)) fun m => ?_
  cases m with
  | isMatch => exact hbody false
  | noMatch => exact carries_pure Decision.notApplicable
  | indeterminate e =>
    simp only [MatchResult.canonical, h.version]
    split
    · exact carries_bind (carries_record e) fun _ => hbody true
    · exact carries_failed env.version none e

end Heading

section Policy

variable (p : Policy) (r : Rule)

lemma Spells.concludeRule_eq :
    spelling.Carries id (env.concludeRule p r) (env'.concludeRule p.canonical r.canonical) := by
  unfold concludeRule
  rw [h.version]
  split
  · refine carries_bind (carries_outcome
      (h.evaluateDuties_eq p.definitions r.effect r.obligations r.advice)) fun result => ?_
    cases result with
    | ok duties => exact carries_bind (carries_modifyFindings _) fun _ => carries_pure _
    | error e => exact carries_failed env.version (some r.effect) e
  · exact carries_pure r.effect.decision

lemma Spells.evaluateMatchingRule_eq : spelling.Carries id (env.evaluateMatchingRule p r)
    (env'.evaluateMatchingRule p.canonical r.canonical) := by
  unfold evaluateMatchingRule
  rw [show r.canonical.condition = r.condition.map .canonical from rfl]
  cases r.condition with
  | none => exact h.concludeRule_eq p r
  | some condition =>
    refine carries_bind (carries_outcome (h.evaluateCondition_eq p.definitions condition)) ?_
    intro result
    rcases result with e | _ | _
    · rw [h.version]
      exact carries_failed env.version (some r.effect) e
    · exact carries_pure Decision.notApplicable
    · exact h.concludeRule_eq p r

lemma Spells.probeRule_eq : spelling.Carries MatchResult.canonical (env.probeRule p r)
    (env'.probeRule p.canonical r.canonical) := by
  have htarget : targetOf p.canonical r.canonical = (targetOf p r).map .canonical := by
    rw [targetOf, targetOf, Option.map_or]
    rfl
  unfold probeRule
  rw [htarget]
  exact carries_ofResult (h.matchTarget_eq (targetOf p r))

lemma Spells.evaluateRule_eq :
    spelling.Carries id (env.evaluateRule p r) (env'.evaluateRule p.canonical r.canonical) := by
  refine carries_bind (h.probeRule_eq p r) fun m => ?_
  cases m with
  | isMatch => exact h.evaluateMatchingRule_eq p r
  | noMatch => exact carries_pure Decision.notApplicable
  | indeterminate e =>
    simp only [MatchResult.canonical, h.version]
    exact carries_failed env.version (some r.effect) e

/-- A policy in canonical form decides as before. -/
theorem Spells.evaluatePolicy_eq (halgorithms : env.algorithms = .standard) :
    spelling.Carries id (env.evaluatePolicy p) (env'.evaluatePolicy p.canonical) := by
  have hrules : p.canonical.rules.map (env'.ruleChild p.canonical) =
      p.rules.map fun r => env'.ruleChild p.canonical r.canonical := List.map_map
  unfold evaluatePolicy
  rw [hrules]
  refine carries_withFreshVariables (h.whenApplicable_eq p.heading fun targetFailed => ?_)
  refine h.collecting_eq p.heading p.definitions .policy ?_
  refine h.combine_eq p.heading halgorithms ?_ ?_ ?_ targetFailed
  · exact fun r => rfl
  · exact fun r _ => h.evaluateRule_eq p r
  · exact fun r _ => h.probeRule_eq p r

end Policy

end Environment

end PolicyDecision
