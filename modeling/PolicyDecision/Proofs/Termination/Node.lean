import PolicyDecision.Proofs.Independence
import PolicyDecision.Proofs.Termination.Expression

/-! The evaluation of nodes without a bound on its depth, as a relation that counts the references
that are open. Whatever the repository answers, every evaluation ends, and it never has more
references open than may be followed. -/

namespace PolicyDecision

open Stateful NodeEvaluation Environment

/-- Answers that agree on all the questions of a run lead to the same run. -/
lemma Plan.runNoted_congr {n : ℕ} {evaluate evaluate' : Fin n → NodeEvaluation Decision}
    {probe : Fin n → NodeEvaluation MatchResult} (plan : Plan n) {s : Progress}
    (h : ∀ i start answer,
      .evaluated i start answer ∈ plan.transcript evaluate (fun i => recording (probe i)) s →
        evaluate i start = evaluate' i start) (applied : Bool) :
    plan.runNoted evaluate probe applied s = plan.runNoted evaluate' probe applied s := by
  induction plan generalizing s applied with
  | decide d => rfl
  | evaluate i next ih =>
    have hi : evaluate i s = evaluate' i s :=
      h i s _ (by rw [transcript]; exact List.mem_cons_self)
    rw [runNoted_evaluate, runNoted_evaluate, bind_apply, bind_apply,
      noteDecision_apply, noteDecision_apply, ← hi]
    rcases hx : evaluate i s with ⟨e | d, s'⟩
    · rfl
    · refine ih d (fun j start answer hj => h j start answer ?_) _
      rw [transcript_evaluate hx]
      exact List.mem_cons_of_mem _ hj
  | probe i next ih =>
    rw [runNoted_probe, runNoted_probe, bind_apply, bind_apply, noteMatch_apply]
    rcases hx : recording (probe i) s with ⟨e | m, s'⟩
    · rfl
    · refine ih m (fun j start answer hj => h j start answer ?_) _
      rw [transcript_probe hx]
      exact List.mem_cons_of_mem _ hj

namespace Environment

variable (env : Environment)

/-- A child that is evaluated in the given way. -/
def answering (answers : PolicyNode → NodeEvaluation Decision) (h : Heading) (c : PolicyNode) :
    Child NodeEvaluation :=
  ⟨⟨none, h.parametersOf c.id⟩, answers c, env.probeNode c⟩

/-- The plan of an algorithm for the children of a policy set. -/
def childPlan (a : CombiningAlgorithm) (h : Heading) (children : List PolicyNode) :
    Plan children.length :=
  a children.length (fun i => ⟨none, h.parametersOf (children.get i).id⟩) h.parameters env.version

/-- What the evaluation of a policy set asks its children. -/
def asked (answers : PolicyNode → NodeEvaluation Decision) (h : Heading)
    (children : List PolicyNode) (s : Progress) : List (Event children.length) :=
  match env.entered h s, env.algorithms.require h.algorithm with
  | some s', .ok a => (env.childPlan a h children).transcript (fun i => answers (children.get i))
      (fun i => recording (env.probeNode (children.get i)))
      { s' with findings := {}, enclosing := h.id :: s'.enclosing }
  | _, _ => []

/-- What is left behind a reference. -/
def leave (out : Except ConfigurationError Decision × Progress) :
    Except ConfigurationError Decision × Progress :=
  (out.1, { out.2 with followed := out.2.followed - 1 })

/-- The evaluation of a node, with so many references open, and with all the evaluations that it
leads to. At no moment are more than `limit` references open. -/
inductive RunWithin (limit : ℕ) :
    ℕ → PolicyNode → Progress → Except ConfigurationError Decision × Progress → Prop
  | policy {opened : ℕ} {p : Policy} {s : Progress} (bound : opened ≤ limit)
      (expressions : ∀ e ∈ p.expressions, ∀ known,
        env.Computes p.definitions e known (env.evaluate p.definitions e known)) :
      RunWithin limit opened (.policy p) s (env.evaluatePolicy p s)
  | policySet {opened : ℕ} {h : Heading} {children : List PolicyNode} {s : Progress}
      (answers : PolicyNode → NodeEvaluation Decision) (bound : opened ≤ limit)
      (expressions : ∀ e ∈ h.expressions, ∀ known,
        env.Computes [] e known (env.evaluate [] e known))
      (runs : ∀ i start answer, .evaluated i start answer ∈ env.asked answers h children s →
        RunWithin limit opened (children.get i) start (answers (children.get i) start)) :
      RunWithin limit opened (.policySet h children) s
        (env.evaluateSet h (children.map (env.answering answers h)) s)
  | policyRefused {opened : ℕ} {r : Reference} {s s' : Progress} {e : EvaluationError}
      (bound : opened ≤ limit) (refused : env.resolvePolicy r s = (.ok (.error e), s')) :
      RunWithin limit opened (.policyRef r) s
        (.ok (env.version.indeterminate none), s'.recorded e)
  | policyFollowed {opened : ℕ} {r : Reference} {p : Policy} {s s' : Progress}
      {out : Except ConfigurationError Decision × Progress} (bound : opened ≤ limit)
      (resolved : env.resolvePolicy r s = (.ok (.ok p), s'))
      (run : RunWithin limit (opened + 1) (.policy p) { s' with followed := s'.followed + 1 } out) :
      RunWithin limit opened (.policyRef r) s (leave out)
  | policySetRefused {opened : ℕ} {r : Reference} {s s' : Progress} {e : EvaluationError}
      (bound : opened ≤ limit) (refused : env.resolvePolicySet r s = (.ok (.error e), s')) :
      RunWithin limit opened (.policySetRef r) s
        (.ok (env.version.indeterminate none), s'.recorded e)
  | policySetFollowed {opened : ℕ} {r : Reference} {p : PolicySet} {s s' : Progress}
      {out : Except ConfigurationError Decision × Progress} (bound : opened ≤ limit)
      (resolved : env.resolvePolicySet r s = (.ok (.ok p), s'))
      (run : RunWithin limit (opened + 1) p.toNode { s' with followed := s'.followed + 1 } out) :
      RunWithin limit opened (.policySetRef r) s (leave out)

section PolicySet

variable {env} {h : Heading} {children : List PolicyNode} {s : Progress}
  {answers answers' : PolicyNode → NodeEvaluation Decision}

lemma combine_answering {a : CombiningAlgorithm} (ha : env.algorithms.require h.algorithm = .ok a)
    (targetFailed : Bool) :
    env.combine h (children.map (env.answering answers h)) targetFailed =
      (env.childPlan a h children).runNoted (fun i => answers (children.get i))
          (fun i => env.probeNode (children.get i)) false >>= fun p =>
        pure (finalDecision env.version p.2 targetFailed p.1) :=
  Correspondence.combine_map (env.answering answers h) children ha targetFailed

/-- Answers that agree on everything that is asked lead to the same outcome. -/
lemma evaluateSet_congr
    (hagree : ∀ i start answer, .evaluated i start answer ∈ env.asked answers h children s →
      answers (children.get i) start = answers' (children.get i) start) :
    env.evaluateSet h (children.map (env.answering answers h)) s =
      env.evaluateSet h (children.map (env.answering answers' h)) s := by
  have hbody : ∀ s' targetFailed, env.entered h s = some s' →
      env.combine h (children.map (env.answering answers h)) targetFailed
          { s' with findings := {}, enclosing := h.id :: s'.enclosing } =
        env.combine h (children.map (env.answering answers' h)) targetFailed
          { s' with findings := {}, enclosing := h.id :: s'.enclosing } := by
    intro s' targetFailed hs'
    cases ha : env.algorithms.require h.algorithm with
    | error c =>
      unfold combine
      rw [ha]
      rfl
    | ok a =>
      rw [asked, hs', ha] at hagree
      rw [combine_answering ha, combine_answering ha, bind_apply, bind_apply,
        Plan.runNoted_congr _ hagree]
  have hcollecting : ∀ s' targetFailed, env.entered h s = some s' →
      withinSet h.id (env.collecting .policySet h []
          (env.combine h (children.map (env.answering answers h)) targetFailed)) s' =
        withinSet h.id (env.collecting .policySet h []
          (env.combine h (children.map (env.answering answers' h)) targetFailed)) s' := by
    intro s' targetFailed hs'
    unfold withinSet
    rw [collecting_apply, collecting_apply, hbody s' targetFailed hs']
  unfold evaluateSet
  rw [whenApplicable_apply, whenApplicable_apply]
  rcases htarget : env.matchTarget h.target with c | _ | _ | e
  · rfl
  · exact hcollecting s false (by rw [entered, htarget])
  · rfl
  · cases hversion : env.version.isExtended with
    | false => rfl
    | true => exact hcollecting _ true (by rw [entered, htarget]; simp only [hversion, if_true])

lemma followed_entered {s' : Progress} (hs' : env.entered h s = some s') :
    s'.followed = s.followed := by
  unfold entered at hs'
  split at hs'
  · cases hs'
    rfl
  · split at hs'
    · cases hs'
      rfl
    · cases hs'
  · cases hs'

/-- The children of a policy set are evaluated with as many references open as the set is. -/
lemma followed_asked (hanswers : ∀ i start answer,
      .evaluated i start answer ∈ env.asked answers h children s → start.followed = s.followed →
        answers (children.get i) start = env.evaluateChild (children.get i) start) :
    ∀ i start answer, .evaluated i start answer ∈ env.asked answers h children s →
      start.followed = s.followed := by
  intro i start answer hi
  unfold asked at hi
  split at hi
  · rename_i s' a hs' ha
    have hentered := followed_entered hs'
    have hplace := Plan.forall_transcript
      (P := SamePlace { s' with findings := {}, enclosing := h.id :: s'.enclosing })
      (env.childPlan a h children) (fun j t d t' hj ht hrun => ?_)
      (fun j t m t' ht hrun => ht.trans (env.samePlace_probeNode _ hrun)) ⟨rfl, rfl, rfl⟩ _ hi
    · have hstart : start.followed = s'.followed := hplace.1.2.2
      exact hstart.trans hentered
    · have hasked : .evaluated j t (.ok d) ∈ env.asked answers h children s := by
        rw [asked, hs', ha]
        exact hj
      have hchild := hanswers j t _ hasked (Eq.trans ht.2.2 hentered)
      exact ht.trans (env.samePlace_evaluateChild _ (hchild.symm.trans hrun))
  · cases hi

end PolicySet

variable {env}

lemma followed_resolvePolicy {r : Reference} {p : Policy} {s s' : Progress}
    (h : env.resolvePolicy r s = (.ok (.ok p), s')) :
    s' = s ∧ s.followed < env.maxReferenceDepth := by
  rw [resolvePolicy_apply] at h
  obtain ⟨hresolved, rfl⟩ := Prod.mk.inj h
  refine ⟨rfl, Nat.lt_of_not_le fun hdepth => ?_⟩
  rw [if_pos hdepth] at hresolved
  cases hresolved

lemma followed_resolvePolicySet {r : Reference} {p : PolicySet} {s s' : Progress}
    (h : env.resolvePolicySet r s = (.ok (.ok p), s')) :
    s' = s ∧ s.followed < env.maxReferenceDepth := by
  rw [resolvePolicySet_apply] at h
  obtain ⟨hresolved, rfl⟩ := Prod.mk.inj h
  refine ⟨rfl, Nat.lt_of_not_le fun hdepth => ?_⟩
  rw [if_pos hdepth] at hresolved
  cases hresolved

lemma runWithin_policy_iff {limit opened : ℕ} (hopened : opened ≤ limit) (p : Policy) (s : Progress)
    (out : Except ConfigurationError Decision × Progress) :
    env.RunWithin limit opened (.policy p) s out ↔ out = env.evaluatePolicy p s := by
  constructor
  · rintro ⟨⟩
    rfl
  · rintro rfl
    exact .policy hopened fun e _ known => (computes_iff e known _).mpr rfl

section Run

variable {s : Progress} (hs : s.followed ≤ env.maxReferenceDepth)
include hs

/-- The runs of the children begin with as many references open as that of the policy set. -/
lemma runWithin_policySet_iff (h : Heading) (children : List PolicyNode)
    (hchildren : ∀ c ∈ children, ∀ start : Progress, start.followed = s.followed → ∀ out,
      env.RunWithin env.maxReferenceDepth s.followed c start out ↔ out = env.evaluateChild c start)
    (out : Except ConfigurationError Decision × Progress) :
    env.RunWithin env.maxReferenceDepth s.followed (.policySet h children) s out ↔
      out = env.evaluateChild (.policySet h children) s := by
  rw [evaluateChild_policySet]
  constructor
  · intro hrun
    cases hrun with
    | policySet answers bound expressions runs =>
      have hanswers : ∀ i start answer, .evaluated i start answer ∈ env.asked answers h children s →
          start.followed = s.followed →
            answers (children.get i) start = env.evaluateChild (children.get i) start :=
        fun i start answer hi hstart =>
          (hchildren _ (List.get_mem children i) start hstart _).mp (runs i start answer hi)
      exact evaluateSet_congr fun i start answer hi =>
        hanswers i start answer hi (followed_asked hanswers i start answer hi)
  · rintro rfl
    refine .policySet env.evaluateChild hs (fun e _ known => (computes_iff e known _).mpr rfl) ?_
    intro i start answer hi
    have hstart := followed_asked (fun _ _ _ _ _ => rfl) i start answer hi
    exact (hchildren _ (List.get_mem children i) start hstart _).mpr rfl

lemma runWithin_policyRef_iff (r : Reference)
    (out : Except ConfigurationError Decision × Progress) :
    env.RunWithin env.maxReferenceDepth s.followed (.policyRef r) s out ↔
      out = env.evaluateChild (.policyRef r) s := by
  rw [evaluateChild_policyRef, follow_apply]
  rcases hr : env.resolvePolicy r s with ⟨c | e | p, s'⟩
  · rw [resolvePolicy_apply] at hr
    cases hr
  · constructor
    · intro hrun
      cases hrun with
      | policyRefused bound refused =>
        cases hr.symm.trans refused
        rfl
      | policyFollowed bound resolved => cases hr.symm.trans resolved
    · rintro rfl
      exact .policyRefused hs hr
  · obtain ⟨rfl, hlt⟩ := followed_resolvePolicy hr
    constructor
    · intro hrun
      cases hrun with
      | policyRefused bound refused => cases hr.symm.trans refused
      | policyFollowed bound resolved run =>
        cases hr.symm.trans resolved
        rw [(runWithin_policy_iff hlt p _ _).mp run]
        rfl
    · rintro rfl
      exact .policyFollowed hs hr ((runWithin_policy_iff hlt p _ _).mpr rfl)

/-- The run behind the reference begins with one more reference open. -/
lemma runWithin_policySetRef_iff (r : Reference)
    (hbehind : s.followed < env.maxReferenceDepth → ∀ (p : PolicySet) (start : Progress),
      start.followed = s.followed + 1 → ∀ out,
        env.RunWithin env.maxReferenceDepth (s.followed + 1) p.toNode start out ↔
          out = env.evaluateChild p.toNode start)
    (out : Except ConfigurationError Decision × Progress) :
    env.RunWithin env.maxReferenceDepth s.followed (.policySetRef r) s out ↔
      out = env.evaluateChild (.policySetRef r) s := by
  rw [evaluateChild_policySetRef, follow_apply]
  rcases hr : env.resolvePolicySet r s with ⟨c | e | p, s'⟩
  · rw [resolvePolicySet_apply] at hr
    cases hr
  · constructor
    · intro hrun
      cases hrun with
      | policySetRefused bound refused =>
        cases hr.symm.trans refused
        rfl
      | policySetFollowed bound resolved => cases hr.symm.trans resolved
    · rintro rfl
      exact .policySetRefused hs hr
  · obtain ⟨rfl, hlt⟩ := followed_resolvePolicySet hr
    have hinner := hbehind hlt p { s' with followed := s'.followed + 1 } rfl
    constructor
    · intro hrun
      cases hrun with
      | policySetRefused bound refused => cases hr.symm.trans refused
      | policySetFollowed bound resolved run =>
        cases hr.symm.trans resolved
        rw [(hinner _).mp run]
        rfl
    · rintro rfl
      exact .policySetFollowed hs hr ((hinner _).mpr rfl)

end Run

/-- As long as no more references are open than may be followed, a node has one run, which is its
evaluation. The run goes deeper by following a reference, or by going down to a child. -/
theorem runWithin_iff (node : PolicyNode) {s : Progress}
    (hs : s.followed ≤ env.maxReferenceDepth)
    (out : Except ConfigurationError Decision × Progress) :
    env.RunWithin env.maxReferenceDepth s.followed node s out ↔ out = env.evaluateChild node s := by
  suffices hbudget : ∀ budget node (s : Progress), s.followed ≤ env.maxReferenceDepth →
      env.maxReferenceDepth - s.followed ≤ budget → ∀ out,
        env.RunWithin env.maxReferenceDepth s.followed node s out ↔
          out = env.evaluateChild node s from hbudget _ node s hs (Nat.le_refl _) out
  intro budget
  induction budget using Nat.strongRecOn with
  | ind budget ih =>
    intro node
    induction node using PolicyNode.induction with
    | policy p =>
      intro s hs _ out
      rw [evaluateChild_policy]
      exact runWithin_policy_iff hs p s out
    | policySet h children ihchildren =>
      intro s hs hbudget out
      refine runWithin_policySet_iff hs h children (fun c hc start hstart => ?_) out
      rw [← hstart] at hs hbudget ⊢
      exact ihchildren c hc start hs hbudget
    | policyRef r => exact fun s hs _ out => runWithin_policyRef_iff hs r out
    | policySetRef r =>
      intro s hs hbudget out
      refine runWithin_policySetRef_iff hs r (fun hlt p start hstart => ?_) out
      rw [← hstart]
      exact ih (budget - 1) (by omega) p.toNode start (by omega) (by omega)

/-- The evaluation of a root ends. It has one run, which never has more references open than may be
followed, and the result is that of the run. -/
theorem evaluateRoot_terminates (env : Environment) (root : Root) :
    ∃ out, (∀ out', env.RunWithin env.maxReferenceDepth 0 root.toNode {} out' ↔ out' = out) ∧
      env.evaluateRoot root = out.1.map fun d => result d out.2 :=
  ⟨env.evaluateChild root.toNode {},
    fun out' => runWithin_iff root.toNode (s := {}) (Nat.zero_le _) out',
    env.evaluateRoot_eq_evaluateChild root⟩

end Environment

end PolicyDecision
