import PolicyDecision.Proofs.Correspondence.Basic

/-! Rules, policies and policy sets, evaluated side by side. -/

namespace PolicyDecision

open Stateful NodeEvaluation Environment

namespace Plan

variable {n : ℕ} (evaluate : Fin n → NodeEvaluation Decision)
  (probe : Fin n → NodeEvaluation MatchResult)

/-- A run that notes whether a child applied. -/
def runNoted (plan : Plan n) (applied : Bool) : NodeEvaluation (Decision × Bool) :=
  (plan.run (fun i => noteDecision (evaluate i)) fun i => noteMatch (probe i)).run applied

lemma runNoted_evaluate (i : Fin n) (next : Decision → Plan n) (applied : Bool) :
    (Plan.evaluate i next).runNoted evaluate probe applied =
      noteDecision (evaluate i) applied >>= fun p => (next p.1).runNoted evaluate probe p.2 := rfl

lemma runNoted_probe (i : Fin n) (next : MatchResult → Plan n) (applied : Bool) :
    (Plan.probe i next).runNoted evaluate probe applied =
      noteMatch (probe i) applied >>= fun p => (next p.1).runNoted evaluate probe p.2 := rfl

end Plan

lemma Findings.addDuties_eq_append (f : Findings) (d : Duties) :
    f.addDuties d = f.append ⟨d.obligations, d.advice, []⟩ := by
  simp [addDuties, append]

lemma Findings.addPolicy_eq_append (f : Findings) (p : PolicyIdentifier) (e : Option Effect) :
    f.addPolicy p e = f.append ⟨[], [], [(p, e)]⟩ := by
  simp [addPolicy, append]

namespace Correspondence

open Findings (addDuties_eq_append addPolicy_eq_append)

variable {c : Correspondence} {turn : Effect → Effect}

section Plan

lemma parallels_recording {x y : NodeEvaluation MatchResult} (h : c.Parallels id x y) :
    c.Parallels id (recording x) (recording y) := by
  refine parallels_bind h fun m => ?_
  cases m with
  | isMatch => exact parallels_pure id _
  | noMatch => exact parallels_pure id _
  | indeterminate e => exact parallels_bind (parallels_record e) fun _ => parallels_pure id _

lemma parallels_noteDecision {x y : NodeEvaluation Decision}
    (h : c.Parallels (Decision.turned c.turn) x y) (applied : Bool) :
    c.Parallels (Prod.map (Decision.turned c.turn) id) (noteDecision x applied)
      (noteDecision y applied) := by
  rw [noteDecision_eq_bind, noteDecision_eq_bind]
  refine parallels_bind h fun d => ?_
  have happlied : (d.turned c.turn != .notApplicable) = (d != .notApplicable) :=
    Bool.eq_iff_iff.mpr (by simp)
  rw [happlied]
  exact parallels_pure (Prod.map (Decision.turned c.turn) id) _

lemma parallels_noteMatch {x y : NodeEvaluation MatchResult} (h : c.Parallels id x y)
    (applied : Bool) : c.Parallels id (noteMatch x applied) (noteMatch y applied) := by
  rw [noteMatch_eq_bind, noteMatch_eq_bind]
  exact parallels_bind (parallels_recording h) fun m => parallels_pure id _

/-- Children that answer alike lead plans that go alike to decisions that are alike. -/
lemma parallels_runNoted {n : ℕ} {evaluate evaluate' : Fin n → NodeEvaluation Decision}
    {probe probe' : Fin n → NodeEvaluation MatchResult} {plan plan' : Plan n}
    (hplan : plan.Turned c.turn plan')
    (hevaluate : ∀ i, c.Parallels (Decision.turned c.turn) (evaluate i) (evaluate' i))
    (hprobe : ∀ i, c.Parallels id (probe i) (probe' i)) (applied : Bool) :
    c.Parallels (Prod.map (Decision.turned c.turn) id) (plan.runNoted evaluate probe applied)
      (plan'.runNoted evaluate' probe' applied) := by
  induction hplan generalizing applied with
  | decide d => exact parallels_pure (Prod.map (Decision.turned c.turn) id) (d, applied)
  | evaluate i _ ih =>
    rw [Plan.runNoted_evaluate, Plan.runNoted_evaluate]
    exact parallels_bind (parallels_noteDecision (hevaluate i) applied) fun p => ih p.1 p.2
  | probe i _ ih =>
    rw [Plan.runNoted_probe, Plan.runNoted_probe]
    exact parallels_bind (parallels_noteMatch (hprobe i) applied) fun p => ih p.1 p.2

end Plan

/-- A child of the second evaluation that is described and answers as one of the first. -/
structure ChildAlike (c : Correspondence) (describes : ChildInfo → ChildInfo → Prop)
    (x y : Child NodeEvaluation) : Prop where
  info : describes x.info y.info
  evaluate : c.Parallels (Decision.turned c.turn) x.evaluate y.evaluate
  probe : c.Parallels id x.probe y.probe

/-- Both algorithms are missing, or they make plans that go alike for children that are described
alike. -/
inductive AlgorithmAlike (turn : Effect → Effect) (describes : ChildInfo → ChildInfo → Prop)
    (parameters parameters' : List Parameter) (version : Version) :
    Except ConfigurationError CombiningAlgorithm →
      Except ConfigurationError CombiningAlgorithm → Prop
  | missing (e : ConfigurationError) :
    AlgorithmAlike turn describes parameters parameters' version (.error e) (.error e)
  | found {a a' : CombiningAlgorithm} (h : ∀ n (info info' : Fin n → ChildInfo),
      (∀ i, describes (info i) (info' i)) →
        (a n info parameters version).Turned turn (a' n info' parameters' version)) :
    AlgorithmAlike turn describes parameters parameters' version (.ok a) (.ok a')

/-- What must agree in two environments, and in two policies or policy sets apart from their
children. -/
structure HeadingAlike (turn : Effect → Effect) (describes : ChildInfo → ChildInfo → Prop)
    (env env' : Environment) (definitions definitions' : List VariableDefinition)
    (h h' : Heading) : Prop where
  version : env'.version = env.version
  collectPolicies : env'.collectPolicies = env.collectPolicies
  identifier : h'.id = h.id ∧ h'.version = h.version
  target : env'.matchTarget h'.target = env.matchTarget h.target
  algorithm : AlgorithmAlike turn describes h.parameters h'.parameters env.version
    (env.algorithms.require h.algorithm) (env'.algorithms.require h'.algorithm)
  duties : ∀ e known,
    env'.evaluateDuties definitions' (turn e) h'.obligations h'.advice known =
      ((env.evaluateDuties definitions e h.obligations h.advice known).1.map (Duties.turned turn),
        (env.evaluateDuties definitions e h.obligations h.advice known).2)

section Heading

variable {describes : ChildInfo → ChildInfo → Prop} {env env' : Environment}
  {definitions definitions' : List VariableDefinition} {h h' : Heading}

/-- The children may be counted by any number that is known to be theirs. -/
lemma run_noted_of_length (a : CombiningAlgorithm) {children : List (Child NodeEvaluation)} {n : ℕ}
    (hn : n = children.length) (parameters : List Parameter) (version : Version) (applied : Bool) :
    (a.run (children.map noted) parameters version).run applied =
      (a n (fun i => (children.get (i.cast hn)).info) parameters version).runNoted
        (fun i => (children.get (i.cast hn)).evaluate)
        (fun i => (children.get (i.cast hn)).probe) applied := by
  subst hn
  rw [a.run_map noted fun _ => rfl]
  rfl

/-- The combined decision of children that are made from something else. -/
lemma combine_map {α : Type} (f : α → Child NodeEvaluation) (l : List α) {a : CombiningAlgorithm}
    (ha : env.algorithms.require h.algorithm = .ok a) (targetFailed : Bool) :
    env.combine h (l.map f) targetFailed =
      (a l.length (fun i => (f (l.get i)).info) h.parameters env.version).runNoted
          (fun i => (f (l.get i)).evaluate) (fun i => (f (l.get i)).probe) false >>= fun p =>
        pure (finalDecision env.version p.2 targetFailed p.1) := by
  have hlength : l.length = (l.map f).length := by simp
  unfold combine
  rw [ha]
  change (((a.run ((l.map f).map noted) h.parameters env.version).run false >>= _ :
    NodeEvaluation Decision)) = _
  rw [run_noted_of_length a hlength]
  simp only [List.get_eq_getElem, Fin.val_cast, List.getElem_map]

lemma parallels_combine (hh : HeadingAlike c.turn describes env env' definitions definitions' h h')
    {children children' : List (Child NodeEvaluation)}
    (hchildren : List.Forall₂ (c.ChildAlike describes) children children') (targetFailed : Bool) :
    c.Parallels (Decision.turned c.turn) (env.combine h children targetFailed)
      (env'.combine h' children' targetFailed) := by
  have halgorithm := hh.algorithm
  unfold combine
  generalize env.algorithms.require h.algorithm = x at halgorithm
  generalize env'.algorithms.require h'.algorithm = y at halgorithm
  cases halgorithm with
  | missing e => exact parallels_of_eq (r := .error e) (fun _ => rfl) fun _ => rfl
  | @found a a' hplan =>
    have hchild : ∀ i : Fin children.length, c.ChildAlike describes (children.get i)
        (children'.get (i.cast hchildren.length_eq)) := fun i =>
      hchildren.get i.isLt (hchildren.length_eq ▸ i.isLt)
    change c.Parallels _
      ((a.run (children.map noted) h.parameters env.version).run false >>= fun p =>
        pure (finalDecision env.version p.2 targetFailed p.1) : NodeEvaluation Decision)
      ((a'.run (children'.map noted) h'.parameters env'.version).run false >>= fun p =>
        pure (finalDecision env'.version p.2 targetFailed p.1) : NodeEvaluation Decision)
    rw [hh.version, run_noted_of_length a rfl, run_noted_of_length a' hchildren.length_eq]
    refine parallels_bind (parallels_runNoted (hplan _ _ _ fun i => (hchild i).info)
      (fun i => (hchild i).evaluate) (fun i => (hchild i).probe) false) fun p => ?_
    rw [Prod.map_fst, Prod.map_snd, finalDecision_turned]
    exact parallels_pure _ _

lemma parallels_conclude (hc : c.Suits definitions)
    (hh : HeadingAlike c.turn describes env env' definitions definitions' h h')
    (d : Decision) (inner : Findings) :
    c.Parallels (Decision.turned c.turn) (env.conclude h definitions d inner)
      (env'.conclude h' definitions' (d.turned c.turn) (inner.turned c.turn)) := by
  unfold conclude
  rw [Decision.effect?_turned]
  cases d.effect? with
  | none => exact parallels_pure _ _
  | some e =>
    refine parallels_bind (parallels_outcome_duties hc (hh.duties e)) fun result => ?_
    cases result with
    | error err =>
      rw [hh.version]
      exact parallels_failed env.version (some e) err
    | ok duties =>
      refine parallels_bind (f := id) ?_ fun _ => parallels_pure _ _
      simp only [Findings.adopt_eq, addDuties_eq_append, Findings.append_assoc,
        Findings.restrict_turned c.injective]
      have h := @parallels_append c
        ((inner.restrict e).append ⟨duties.obligations, duties.advice, []⟩)
      rwa [Findings.turned_append] at h

lemma parallels_collecting (hc : c.Suits definitions)
    (hh : HeadingAlike c.turn describes env env' definitions definitions' h h')
    (kind : PolicyKind) {body body' : NodeEvaluation Decision}
    (hbody : c.Parallels (Decision.turned c.turn) body body') :
    c.Parallels (Decision.turned c.turn) (env.collecting kind h definitions body)
      (env'.collecting kind h' definitions' body') := by
  unfold collecting
  refine parallels_bind (parallels_withFreshFindings hbody) fun p => ?_
  refine parallels_bind (parallels_conclude hc hh p.1 p.2) fun d => ?_
  have happlies : (d.turned c.turn != .notApplicable) = (d != .notApplicable) :=
    Bool.eq_iff_iff.mpr (by simp)
  rw [hh.collectPolicies, happlies, hh.identifier.1, hh.identifier.2, Decision.effect?_turned]
  split
  · refine parallels_bind (f := id) ?_ fun _ => parallels_pure _ _
    simp only [addPolicy_eq_append]
    exact parallels_append (c := c) _
  · exact parallels_pure _ _

lemma parallels_whenApplicable
    (hh : HeadingAlike c.turn describes env env' definitions definitions' h h')
    {body body' : Bool → NodeEvaluation Decision}
    (hbody : ∀ targetFailed,
      c.Parallels (Decision.turned c.turn) (body targetFailed) (body' targetFailed)) :
    c.Parallels (Decision.turned c.turn) (env.whenApplicable h body)
      (env'.whenApplicable h' body') := by
  unfold whenApplicable
  rw [hh.target, hh.version]
  refine parallels_bind (f := id)
    (parallels_of_eq (r := env.matchTarget h.target) (fun _ => rfl) fun t => ?_) fun m => ?_
  · cases env.matchTarget h.target <;> rfl
  · cases m with
    | isMatch => exact hbody false
    | noMatch => exact parallels_pure (Decision.turned c.turn) .notApplicable
    | indeterminate e =>
      simp only [id]
      split
      · exact parallels_bind (parallels_record e) fun _ => hbody true
      · exact parallels_failed env.version none e

end Heading

/-- What must agree in two rules, for their duties are those of their effects. -/
structure RuleAlike (turn : Effect → Effect) (env env' : Environment) (p p' : Policy)
    (r r' : Rule) : Prop where
  effect : r'.effect = turn r.effect
  target : env'.matchTarget (targetOf p' r') = env.matchTarget (targetOf p r)
  condition : Option.Rel (fun e e' => ∀ known, env'.evaluateCondition p'.definitions e' known =
    env.evaluateCondition p.definitions e known) r.condition r'.condition
  duties : ∀ known, env'.evaluateDuties p'.definitions r'.effect r'.obligations r'.advice known =
    ((env.evaluateDuties p.definitions r.effect r.obligations r.advice known).1.map
      (Duties.turned turn),
      (env.evaluateDuties p.definitions r.effect r.obligations r.advice known).2)

section Rule

variable {hturn : Function.Injective turn} {env env' : Environment} {p p' : Policy} {r r' : Rule}

lemma parallels_concludeRule (hversion : env'.version = env.version)
    (hr : RuleAlike turn env env' p p' r r') :
    (within hturn).Parallels (Decision.turned turn) (env.concludeRule p r)
      (env'.concludeRule p' r') := by
  unfold concludeRule
  rw [hversion, hr.effect]
  split
  · have hduties := hr.duties
    rw [hr.effect] at hduties
    refine parallels_bind (parallels_outcome_duties (suits_within _) hduties) fun result => ?_
    cases result with
    | ok duties =>
      refine parallels_bind (f := id) ?_ fun _ => ?_
      · simp only [addDuties_eq_append]
        exact parallels_append (c := within hturn) ⟨duties.obligations, duties.advice, []⟩
      · rw [← Decision.turned_decision]
        exact parallels_pure _ _
    | error err => exact parallels_failed (c := within hturn) env.version (some r.effect) err
  · rw [← Decision.turned_decision]
    exact parallels_pure _ _

lemma parallels_evaluateMatchingRule (hversion : env'.version = env.version)
    (hr : RuleAlike turn env env' p p' r r') :
    (within hturn).Parallels (Decision.turned turn) (env.evaluateMatchingRule p r)
      (env'.evaluateMatchingRule p' r') := by
  have hcondition := hr.condition
  unfold evaluateMatchingRule
  generalize r.condition = x at hcondition
  generalize r'.condition = y at hcondition
  cases hcondition with
  | none => exact parallels_concludeRule hversion hr
  | @some e e' h =>
    refine parallels_bind (f := Except.map id)
      (parallels_outcome ⟨rfl, fun _ _ h => h⟩ fun known => ?_) fun result => ?_
    · rw [h]
      rcases env.evaluateCondition p.definitions e known with ⟨_ | _, _⟩ <;> rfl
    · rcases result with err | _ | _
      · rw [hversion, hr.effect]
        exact parallels_failed (c := within hturn) env.version (some r.effect) err
      · exact parallels_pure (Decision.turned turn) .notApplicable
      · exact parallels_concludeRule hversion hr

lemma parallels_probeRule (hr : RuleAlike turn env env' p p' r r') :
    (within hturn).Parallels id (env.probeRule p r) (env'.probeRule p' r') := by
  unfold probeRule
  rw [hr.target]
  refine parallels_of_eq (r := env.matchTarget (targetOf p r)) (fun _ => rfl) fun t => ?_
  cases env.matchTarget (targetOf p r) <;> rfl

lemma parallels_evaluateRule (hversion : env'.version = env.version)
    (hr : RuleAlike turn env env' p p' r r') :
    (within hturn).Parallels (Decision.turned turn) (env.evaluateRule p r)
      (env'.evaluateRule p' r') := by
  refine parallels_bind (parallels_probeRule hr) fun m => ?_
  cases m with
  | isMatch => exact parallels_evaluateMatchingRule hversion hr
  | noMatch => exact parallels_pure (Decision.turned turn) .notApplicable
  | indeterminate e =>
    simp only [id]
    rw [hversion, hr.effect]
    exact parallels_failed (c := within hturn) env.version (some r.effect) e

end Rule

section Policy

variable {describes : ChildInfo → ChildInfo → Prop} {env env' : Environment} {p p' : Policy}

lemma parallels_evaluatePolicy
    (hp : HeadingAlike c.turn describes env env' p.definitions p'.definitions
      p.heading p'.heading)
    (hrules : List.Forall₂ (fun r r' => RuleAlike c.turn env env' p p' r r' ∧
      describes (env.ruleChild p r).info (env'.ruleChild p' r').info) p.rules p'.rules) :
    c.Parallels (Decision.turned c.turn) (env.evaluatePolicy p) (env'.evaluatePolicy p') := by
  refine parallels_withFreshVariables
    (parallels_whenApplicable (c := within c.injective) hp fun targetFailed => ?_)
  refine parallels_collecting (suits_within _) hp .policy
    (parallels_combine (c := within c.injective) hp ?_ targetFailed)
  rw [List.forall₂_map_left_iff, List.forall₂_map_right_iff]
  exact hrules.imp fun r r' h =>
    ⟨h.2, parallels_evaluateRule hp.version h.1, parallels_probeRule h.1⟩

end Policy

/-- Policy sets that are alike, from states that agree within them as well. -/
lemma parallels_evaluateSet {k : Correspondence} (hturn : k.turn = c.turn)
    (hrestoring : k.restoring = c.restoring) {describes : ChildInfo → ChildInfo → Prop}
    {env env' : Environment} {h h' : Heading}
    (hagree : ∀ s t, c.agree s t → k.agree { s with enclosing := h.id :: s.enclosing }
      { t with enclosing := h'.id :: t.enclosing })
    (hh : HeadingAlike c.turn describes env env' [] [] h h')
    {children children' : List (Child NodeEvaluation)}
    (hchildren : List.Forall₂ (k.ChildAlike describes) children children') :
    c.Parallels (Decision.turned c.turn) (env.evaluateSet h children)
      (env'.evaluateSet h' children') := by
  refine parallels_whenApplicable hh fun targetFailed => ?_
  refine parallels_withinSet hturn hrestoring hagree ?_
  rw [← hturn] at hh ⊢
  exact parallels_collecting (Or.inr rfl) hh .policySet
    (parallels_combine hh hchildren targetFailed)

end Correspondence
end PolicyDecision
