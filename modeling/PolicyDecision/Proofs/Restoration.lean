import PolicyDecision.Proofs.Independence

/-! The evaluation of a node leaves the state as it found it, whatever its outcome. Only findings are
added, and those only by a node that applies; an error is recorded only if there is none yet. -/

namespace PolicyDecision

open Stateful NodeEvaluation

namespace NodeEvaluation

/-- The outcome of a node that does not apply, or an error of the configuration. -/
def Unapplied (outcome : Except ConfigurationError Decision) : Prop :=
  ∀ d, outcome = .ok d → d = .notApplicable

/-- An evaluation without a node that applies finds nothing. -/
def Discreet (x : NodeEvaluation Decision) : Prop :=
  ∀ s, Unapplied (x s).1 → (x s).2.findings = s.findings

/-- What an evaluation leaves in the state, whatever it comes to. -/
structure Restores (x : NodeEvaluation Decision) : Prop where
  enclosing : ∀ s, (x s).2.enclosing = s.enclosing
  followed : ∀ s, (x s).2.followed = s.followed
  known : ∀ s, (x s).2.known = s.known
  appended : ∀ s, ∃ added, (x s).2.findings = s.findings.append added
  unapplied : ∀ s, Unapplied (x s).1 → (x s).2.findings = s.findings
  firstError : ∀ s e, s.firstError = some e → (x s).2.firstError = some e

lemma not_unapplied_indeterminate (version : Version) (possible : Option Effect) :
    ¬ Unapplied (.ok (version.indeterminate possible)) := by
  intro h
  have hnone := h _ rfl
  unfold Version.indeterminate at hnone
  rcases possible with _ | _ | _ <;> cases hv : version.isExtended <;> rw [hv] at hnone <;>
    cases hnone

lemma not_unapplied_of_effect {d : Decision} {e : Effect} (hd : d.effect? = some e) :
    ¬ Unapplied (.ok d) := by
  intro h
  rw [h d rfl] at hd
  cases hd

section Discreet

variable {x : NodeEvaluation Decision}

lemma discreet_withFreshVariables (h : Discreet x) : Discreet (withFreshVariables x) :=
  fun s => h { s with known := ∅ }

lemma discreet_withinSet (h : Discreet x) (id : String) : Discreet (withinSet id x) :=
  fun s => h { s with enclosing := id :: s.enclosing }

lemma discreet_behindReference (h : Discreet x) : Discreet (behindReference x) :=
  fun s => h { s with followed := s.followed + 1 }

end Discreet

end NodeEvaluation

namespace Environment

variable (env : Environment)

/-- A node that applies has an effect or fails; otherwise nothing of it is kept, whatever its body
has found. -/
lemma discreet_collecting (kind : PolicyKind) (h : Heading) (definitions : List VariableDefinition)
    (body : NodeEvaluation Decision) : Discreet (env.collecting kind h definitions body) := by
  intro s hs
  rw [collecting_apply] at hs ⊢
  rcases hbody : body { s with findings := {} } with ⟨c | d, s₁⟩
  · rfl
  · simp only [hbody, conclude_apply] at hs ⊢
    cases hd : d.effect? with
    | none =>
      simp only [hd] at hs ⊢
      obtain rfl := hs d rfl
      simp [listed]
    | some e =>
      rcases hx : env.evaluateDuties definitions e h.obligations h.advice s₁.known with
        ⟨(err | c) | duties, known⟩
      · simp only [hd, hx] at hs
        exact absurd hs (not_unapplied_indeterminate env.version (some e))
      · simp only [hx]
      · simp only [hd, hx] at hs
        exact absurd hs (not_unapplied_of_effect hd)

lemma discreet_whenApplicable (h : Heading) {body : Bool → NodeEvaluation Decision}
    (hbody : ∀ targetFailed, Discreet (body targetFailed)) :
    Discreet (env.whenApplicable h body) := by
  intro s hs
  rw [whenApplicable_apply] at hs ⊢
  rcases htarget : env.matchTarget h.target with c | _ | _ | e
  · rfl
  · simp only [htarget] at hs
    exact hbody false s hs
  · rfl
  · cases hversion : env.version.isExtended with
    | true =>
      simp only [htarget, hversion, if_true] at hs ⊢
      exact hbody true (s.recorded e) hs
    | false => rfl

lemma discreet_evaluatePolicy (p : Policy) : Discreet (env.evaluatePolicy p) :=
  discreet_withFreshVariables (env.discreet_whenApplicable p.heading fun _ =>
    env.discreet_collecting .policy p.heading p.definitions _)

lemma discreet_evaluateSet (h : Heading) (children : List (Child NodeEvaluation)) :
    Discreet (env.evaluateSet h children) :=
  env.discreet_whenApplicable h fun _ =>
    discreet_withinSet (env.discreet_collecting .policySet h [] _) h.id

lemma discreet_follow {α : Type} {resolved : NodeEvaluation (Outcome α)}
    {evaluate : α → NodeEvaluation Decision} (hresolved : ∀ s, (resolved s).2 = s)
    (hevaluate : ∀ a, Discreet (evaluate a)) : Discreet (env.follow resolved evaluate) := by
  intro s hs
  have hstate := hresolved s
  rw [follow_apply] at hs ⊢
  rcases hr : resolved s with ⟨c | err | a, s₁⟩
  · simp only [hr] at hstate
    simp only [hstate]
  · simp only [hr] at hs
    exact absurd hs (not_unapplied_indeterminate env.version none)
  · simp only [hr] at hstate hs ⊢
    rw [hstate] at hs ⊢
    exact discreet_behindReference (hevaluate a) s hs

/-- Whatever is behind a reference finds nothing either unless it applies, so that no induction on
the references is needed: the node behind one is a policy or a policy set again. -/
lemma discreet_evaluateChild (node : PolicyNode) : Discreet (env.evaluateChild node) := by
  have hset : ∀ s : PolicySet, Discreet (env.evaluatePolicySet s) := by
    intro s
    rw [evaluatePolicySet, PolicySet.toNode, evaluateChild_policySet]
    exact env.discreet_evaluateSet _ _
  cases node with
  | policy p =>
    rw [evaluateChild_policy]
    exact env.discreet_evaluatePolicy p
  | policySet h children =>
    rw [evaluateChild_policySet]
    exact env.discreet_evaluateSet _ _
  | policyRef r =>
    rw [evaluateChild_policyRef]
    exact env.discreet_follow (fun s => by rw [resolvePolicy_apply]) env.discreet_evaluatePolicy
  | policySetRef r =>
    rw [evaluateChild_policySetRef]
    exact env.discreet_follow (fun s => by rw [resolvePolicySet_apply]) hset

lemma restores_evaluateChild (node : PolicyNode) : Restores (env.evaluateChild node) := by
  have hplace : ∀ s, ∃ added error, (env.evaluateChild node s).2 =
      ⟨s.known, s.findings.append added, s.enclosing, s.followed, s.firstError.or error⟩ := by
    intro s
    obtain ⟨outcome, added, hknown, hchild⟩ := env.exists_evaluateNode
      (env.maxReferenceDepth - s.followed) node s.enclosing s.followed
    refine ⟨added.findings, added.error, ?_⟩
    rw [evaluateChild_apply, hchild s rfl rfl, Progress.extended, hknown, Option.getD_none]
  refine ⟨fun s => ?_, fun s => ?_, fun s => ?_, fun s => ?_, env.discreet_evaluateChild node,
    fun s e he => ?_⟩ <;> obtain ⟨added, error, hs⟩ := hplace s <;> rw [hs]
  · exact ⟨added, rfl⟩
  · exact congrArg (Option.or · error) he

/-- Every policy, policy set and child of a policy set, evaluated in any state, leaves the enclosing
policy sets, the number of references followed and the known variables as they were, only adds to the
findings, and keeps the first error. If it does not apply, or ends in an error of the configuration,
then the findings are the old ones. -/
theorem evaluation_restores : (∀ p, Restores (env.evaluatePolicy p)) ∧
    (∀ s, Restores (env.evaluatePolicySet s)) ∧ ∀ child, Restores (env.evaluateChild child) := by
  refine ⟨fun p => ?_, fun s => env.restores_evaluateChild s.toNode, env.restores_evaluateChild⟩
  rw [← evaluateChild_policy]
  exact env.restores_evaluateChild (.policy p)

end Environment

end PolicyDecision
