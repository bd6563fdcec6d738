import PolicyDecision.Proofs.Decision
import PolicyDecision.Proofs.Visit.Findings

/-! The findings of an evaluation are what its visits contribute. -/

namespace PolicyDecision

open Stateful NodeEvaluation

lemma Visit.agreeingAll_append (e : Effect) (vs ws : List Visit) :
    agreeingAll e (vs ++ ws) = agreeingAll e vs ++ agreeingAll e ws := by
  induction vs with
  | nil => rw [agreeingAll, List.nil_append, List.nil_append]
  | cons v vs ih => rw [List.cons_append, agreeingAll, agreeingAll, ih, List.append_assoc]

lemma Visit.agreeingAll_singleton (e : Effect) (v : Visit) :
    agreeingAll e [v] = agreeing e v := by
  rw [agreeingAll, agreeingAll, List.append_nil]

lemma Visit.agreeing_of_ne {e : Effect} {v : Visit} {d : Decision} (hv : v.outcome = .ok d)
    (hd : d.effect? ≠ some e) : v.agreeing e = [] := by
  have hne : v.decided e = false := by
    rw [Visit.decided, hv]
    simpa [Decision.effect?_eq_some] using hd
  cases v <;> simp [Visit.agreeing, hne]

namespace Environment

/-- Between two findings, the visits have contributed what goes with the effect. -/
def Contributes (env : Environment) (e : Effect) (visits : List Visit) (before after : Findings) :
    Prop :=
  ∃ f, env.Accounts e (Visit.agreeingAll e visits) f ∧
    after.restrict e = (before.restrict e).append f

variable {env : Environment} {e : Effect}

lemma contributes_nil (f : Findings) : env.Contributes e [] f f :=
  ⟨{}, accounts_nil, (Findings.append_empty _).symm⟩

lemma Contributes.append {vs ws : List Visit} {f g h : Findings} (hv : env.Contributes e vs f g)
    (hw : env.Contributes e ws g h) : env.Contributes e (vs ++ ws) f h := by
  obtain ⟨a, ha, hg⟩ := hv
  obtain ⟨b, hb, hh⟩ := hw
  refine ⟨a.append b, ?_, ?_⟩
  · rw [Visit.agreeingAll_append]
    exact ha.append hb
  · rw [hh, hg, Findings.append_assoc]

/-- The evaluation leaves behind what can be known between evaluations in a scope, and its visit has
contributed what it adds to the findings. -/
def AccountedFor (env : Environment) (definitions : List VariableDefinition)
    (x : NodeEvaluation Decision) (visit : Progress → Option Visit) : Prop :=
  ∀ s d s', env.Settled definitions s.known → x s = (.ok d, s') →
    env.Settled definitions s'.known ∧
      ∀ e, env.Contributes e (visit s).toList s.findings s'.findings

structure Accounted (env : Environment) (definitions : List VariableDefinition) (t : Traced) :
    Prop where
  evaluate : env.AccountedFor definitions t.child.evaluate t.visit
  probe : ∀ s m s', t.child.probe s = (.ok m, s') → s'.known = s.known ∧ s'.findings = s.findings

section Plan

variable {definitions : List VariableDefinition} {children : List Traced}

lemma recording_keeps {x : NodeEvaluation MatchResult} {s s' : Progress} {m : MatchResult}
    (hx : ∀ m s', x s = (.ok m, s') → s'.known = s.known ∧ s'.findings = s.findings)
    (h : recording x s = (.ok m, s')) : s'.known = s.known ∧ s'.findings = s.findings := by
  rw [recording_apply] at h
  split at h
  · rename_i e s₁ hs₁
    cases h
    exact hx (.indeterminate e) s₁ hs₁
  · cases h
    exact hx _ _ ‹_›
  · cases h

/-- In a run over children that are accounted for, the visits that answered the questions have
contributed what the run adds to the findings. -/
lemma Accounted.run {n : ℕ} {evaluate : Fin n → NodeEvaluation Decision}
    {probe : Fin n → NodeEvaluation MatchResult}
    (hchildren : ∀ i : Fin n, ∃ t, children[i.val]? = some t ∧ evaluate i = t.child.evaluate ∧
      probe i = t.child.probe ∧ env.Accounted definitions t)
    (plan : Plan n) {s s' : Progress} {d : Decision} (hs : env.Settled definitions s.known)
    (hrun : plan.run evaluate (fun i => recording (probe i)) s = (.ok d, s')) :
    env.Settled definitions s'.known ∧ ∀ e, env.Contributes e
      ((plan.transcript evaluate (fun i => recording (probe i)) s).filterMap
        (Event.visit? children)) s.findings s'.findings := by
  induction plan generalizing s with
  | decide d' =>
    cases hrun
    exact ⟨hs, fun e => contributes_nil _⟩
  | evaluate i next ih =>
    obtain ⟨d₁, s₁, hi, hrest⟩ := bind_eq_ok.mp hrun
    obtain ⟨t, ht, heval, -, hacc⟩ := hchildren i
    obtain ⟨hs₁, hcontributes⟩ := hacc.evaluate s d₁ s₁ hs (heval ▸ hi)
    obtain ⟨hs', hrest'⟩ := ih d₁ hs₁ hrest
    refine ⟨hs', fun e => ?_⟩
    have hvisit : (Event.evaluated i s (.ok d₁)).visit? children = t.visit s := by
      rw [Event.visit?, ht, Option.bind_some]
    rw [Plan.transcript_evaluate hi, List.filterMap_cons, hvisit]
    have happend := (hcontributes e).append (hrest' e)
    cases hv : t.visit s with
    | none => simpa [hv] using happend
    | some v => simpa [hv] using happend
  | probe i next ih =>
    obtain ⟨m, s₁, hi, hrest⟩ := bind_eq_ok.mp hrun
    obtain ⟨t, -, -, hprobe, hacc⟩ := hchildren i
    obtain ⟨hknown, hfindings⟩ := recording_keeps
      (fun m s' hm => hacc.probe s m s' (hprobe ▸ hm)) hi
    obtain ⟨hs', hrest'⟩ := ih m (hknown ▸ hs) hrest
    refine ⟨hs', fun e => ?_⟩
    rw [Plan.transcript_probe hi, ← hfindings]
    exact hrest' e

end Plan

/-- What a visit that ended in a decision has added to the findings. -/
structure Adds (env : Environment) (v : Visit) (d : Decision) (added : Findings) : Prop where
  outcome : v.outcome = .ok d
  of_effect : ∀ e, d.effect? = some e → env.Accounts e (v.agreeing e) added
  of_none : d.effect? = none → ∀ e, added.restrict e = {}

lemma Adds.contributes {v : Visit} {d : Decision} {added : Findings} (hv : env.Adds v d added)
    (before : Findings) (e : Effect) : env.Contributes e [v] before (before.append added) := by
  by_cases hd : d.effect? = some e
  · have haccounts := hv.of_effect e hd
    refine ⟨added, ?_, ?_⟩
    · rwa [Visit.agreeingAll_singleton]
    · rw [Findings.restrict_append, haccounts.all.restrict_self]
  · refine ⟨{}, ?_, ?_⟩
    · rw [Visit.agreeingAll_singleton, Visit.agreeing_of_ne hv.outcome hd]
      exact accounts_nil
    · rw [Findings.restrict_append]
      congr 1
      cases he : d.effect? with
      | none => exact hv.of_none he e
      | some e' =>
        refine (hv.of_effect e' he).all.restrict_of_ne ?_
        rintro rfl
        exact hd he

/-- What a visit accounts for by itself. -/
lemma accounts_singleton {v : Visit} {d : Duties} (hd : env.visitDuties e v = .ok d) :
    env.Accounts e [v] ⟨d.obligations, d.advice,
      if env.collectPolicies then v.identifier?.toList.map (·, some e) else []⟩ := by
  refine ⟨⟨[d], ?_, by simp, by simp⟩, ?_⟩
  · rw [List.mapM_cons, hd]
    rfl
  · cases hv : v.identifier? <;> simp [hv]

section Rule

variable {p : Policy} {r : Rule} {s s' : Progress} {d : Decision}

lemma adds_nothing {v : Visit} (hv : v.outcome = .ok d) (hd : d.effect? = none) :
    env.Adds v d {} := by
  refine ⟨hv, fun e he => ?_, fun _ e => Findings.restrict_empty e⟩
  rw [hd] at he
  cases he

lemma agreeing_rule (hd : d.effect? = some e) :
    Visit.agreeing e (.rule p r (.ok d)) = [.rule p r (.ok d)] := by
  rw [Visit.agreeing, if_pos]
  simpa [Visit.decided, Visit.outcome] using Decision.effect?_eq_some.mp hd

lemma adds_rule {duties : Duties}
    (hduties : env.visitDuties r.effect (.rule p r (.ok r.effect.decision)) = .ok duties) :
    env.Adds (.rule p r (.ok r.effect.decision)) r.effect.decision
      ⟨duties.obligations, duties.advice, []⟩ := by
  have heffect : r.effect.decision.effect? = some r.effect := Decision.effect?_eq_some.mpr rfl
  refine ⟨rfl, fun e he => ?_, fun hnone => ?_⟩
  · rw [heffect] at he
    cases he
    rw [agreeing_rule heffect]
    simpa [Visit.identifier?] using accounts_singleton hduties
  · rw [heffect] at hnone
    cases hnone

lemma accounted_concludeRule (hs : env.Settled p.definitions s.known)
    (hrun : env.concludeRule p r s = (.ok d, s')) :
    env.Settled p.definitions s'.known ∧ ∃ added, s'.findings = s.findings.append added ∧
      env.Adds (.rule p r (.ok d)) d added := by
  have hscoped : env.Scoped p.definitions
      (env.evaluateDuties p.definitions r.effect r.obligations r.advice) := Scoped.duties _ _ _
  rcases env.concludeRule_eq_ok hrun with
    ⟨rfl, ⟨hversion, rfl⟩ | ⟨duties, known, hversion, hx, rfl⟩⟩ | ⟨err, known, hx, rfl, rfl⟩
  · refine ⟨hs, {}, (Findings.append_empty _).symm, ?_⟩
    have hduties : env.visitDuties r.effect (.rule p r (.ok r.effect.decision)) = .ok {} := by
      rw [visitDuties, hversion]
      rfl
    exact adds_rule hduties
  · refine ⟨hscoped.settled_of_eq hs hx (by simp), _, ?_, @adds_rule env p r duties ?_⟩
    · simp [Findings.addDuties, Findings.append]
    · rw [visitDuties, hversion, if_pos rfl]
      exact hscoped.value_of_eq hs hx
  · refine ⟨hscoped.settled_of_eq hs hx (by simp), {}, (Findings.append_empty _).symm, ?_⟩
    exact adds_nothing rfl (Version.effect?_indeterminate _ _)

lemma settled_of_conditionHolds {known known' : VariableStates}
    (hknown : env.Settled p.definitions known) (h : env.ConditionHolds p r known known') :
    env.Settled p.definitions known' := by
  unfold ConditionHolds at h
  cases hcondition : r.condition with
  | none =>
    simp only [hcondition] at h
    exact h ▸ hknown
  | some c =>
    simp only [hcondition] at h
    exact (Scoped.condition c).settled_of_eq hknown h (by simp)

/-- A rule that does not decide for its effect adds nothing. -/
lemma accounted_evaluateRule (hs : env.Settled p.definitions s.known)
    (hrun : env.evaluateRule p r s = (.ok d, s')) :
    env.Settled p.definitions s'.known ∧ ∃ added, s'.findings = s.findings.append added ∧
      env.Adds (.rule p r (.ok d)) d added := by
  rcases env.evaluateRule_eq_ok hrun with
    ⟨-, known, hcondition, hconclude⟩ | ⟨hd, hfindings, hknown⟩
  · have hsettled := settled_of_conditionHolds hs hcondition
    exact accounted_concludeRule (s := { s with known }) hsettled hconclude
  · refine ⟨?_, {}, by rw [hfindings, Findings.append_empty], adds_nothing rfl hd⟩
    rcases hknown with hknown | ⟨c, result, hx, hresult⟩
    · exact hknown ▸ hs
    · exact (Scoped.condition c).settled_of_eq hs hx hresult

lemma accounted_tracedRule (p : Policy) (r : Rule) :
    env.Accounted p.definitions (env.tracedRule p r) := by
  refine ⟨fun s d s' hs hrun => ?_, fun s m s' hrun => ?_⟩
  · obtain ⟨hs', added, hfindings, hadds⟩ := accounted_evaluateRule hs hrun
    refine ⟨hs', fun e => ?_⟩
    have hvisit : (env.tracedRule p r).visit s = some (.rule p r (.ok d)) := by
      change some (Visit.rule p r (env.evaluateRule p r s).1) = _
      rw [show env.evaluateRule p r s = (.ok d, s') from hrun]
    rw [hvisit, hfindings]
    exact hadds.contributes s.findings e
  · obtain rfl : s = s' := congrArg Prod.snd hrun
    exact ⟨rfl, rfl⟩

end Rule

section Node

variable {definitions : List VariableDefinition} {children : List Traced}

lemma accounted_combine (hchildren : ∀ t ∈ children, env.Accounted definitions t) {h : Heading}
    {targetFailed : Bool} {s s' : Progress} {d : Decision} (hs : env.Settled definitions s.known)
    (hrun : env.combine h (children.map Traced.child) targetFailed s = (.ok d, s')) :
    env.Settled definitions s'.known ∧ ∃ a, env.algorithms.require h.algorithm = .ok a ∧
      ∀ e, env.Contributes e ((env.combineTranscript a h (children.map Traced.child) s).filterMap
        (Event.visit? children)) s.findings s'.findings := by
  obtain ⟨a, d₁, ha, hx, -⟩ := env.combine_eq_ok hrun
  have htraced : ∀ i : Fin (children.map Traced.child).length, ∃ t,
      children[i.val]? = some t ∧ ((children.map Traced.child).get i).evaluate = t.child.evaluate ∧
        ((children.map Traced.child).get i).probe = t.child.probe ∧ env.Accounted definitions t := by
    intro i
    obtain ⟨t, ht, hi, hchild⟩ := exists_traced children i
    exact ⟨t, hi, by rw [hchild], by rw [hchild], hchildren t ht⟩
  obtain ⟨hs', hcontributes⟩ := Accounted.run htraced _ hs hx
  exact ⟨hs', a, ha, hcontributes⟩

variable (env) in
/-- The node itself, if it applies and nodes are listed. -/
def listing (i : PolicyIdentifier) (d : Decision) : Findings where
  policies := if env.collectPolicies && d != .notApplicable then [(i, d.effect?)] else []

lemma listed_eq (kind : PolicyKind) (h : Heading) (d : Decision) (s : Progress) :
    env.listed kind h d s =
      { s with findings := s.findings.append (env.listing ⟨kind, h.id, h.version⟩ d) } := by
  unfold listed listing
  split
  · simp [Findings.append, Findings.addPolicy]
  · simp [Findings.append]

/-- What the evaluation of a node has added to the findings once it is over: what its visit accounts
for if it has decided for an effect; otherwise at most the node itself. -/
structure Concluded (env : Environment) (kind : PolicyKind) (h : Heading)
    (definitions : List VariableDefinition) (inner : List Visit) (d : Decision)
    (added : Findings) : Prop where
  of_effect : ∀ e, d.effect? = some e →
    env.Accounts e (Visit.agreeing e (.node kind h definitions (.ok d) inner)) added
  of_none : d.effect? = none →
    added = {} ∧ (d = .notApplicable ∨ env.TargetFails h) ∨
      added = env.listing ⟨kind, h.id, h.version⟩ d ∧ ¬ env.TargetFails h

lemma restrict_listing_of_none {i : PolicyIdentifier} {d : Decision} (hd : d.effect? = none)
    (e : Effect) : (env.listing i d).restrict e = {} := by
  rw [listing, hd]
  split <;> simp [Findings.restrict]

lemma Concluded.adds {kind : PolicyKind} {h : Heading} {inner : List Visit} {d : Decision}
    {added : Findings} (hc : env.Concluded kind h definitions inner d added) :
    env.Adds (.node kind h definitions (.ok d) inner) d added := by
  refine ⟨rfl, hc.of_effect, fun hnone e => ?_⟩
  rcases hc.of_none hnone with ⟨rfl, -⟩ | ⟨rfl, -⟩
  · exact Findings.restrict_empty e
  · exact restrict_listing_of_none hnone e

lemma agreeing_node {kind : PolicyKind} {h : Heading} {inner : List Visit} {d : Decision}
    (hd : d.effect? = some e) : Visit.agreeing e (.node kind h definitions (.ok d) inner) =
      Visit.agreeingAll e inner ++ [.node kind h definitions (.ok d) inner] := by
  rw [Visit.agreeing, if_pos]
  simpa [Visit.decided, Visit.outcome] using Decision.effect?_eq_some.mp hd

/-- What a node decides for an effect is what its body has decided. It adds the duties for the effect
and takes over what goes with it; otherwise it adds at most itself. -/
lemma collecting_eq_ok {kind : PolicyKind} {h : Heading} {body : NodeEvaluation Decision}
    {s s' : Progress} {d : Decision}
    (hrun : env.collecting kind h definitions body s = (.ok d, s')) :
    ∃ d₁ s₁, body { s with findings := {} } = (.ok d₁, s₁) ∧
      ((∃ e duties, d₁ = d ∧ d.effect? = some e ∧
          env.evaluateDuties definitions e h.obligations h.advice s₁.known =
            (.ok duties, s'.known) ∧
          s'.findings = ((s.findings.adopt s₁.findings e).addDuties duties).append
            (env.listing ⟨kind, h.id, h.version⟩ d)) ∨
        d.effect? = none ∧
          s'.findings = s.findings.append (env.listing ⟨kind, h.id, h.version⟩ d) ∧
          (s'.known = s₁.known ∨ ∃ e err,
            env.evaluateDuties definitions e h.obligations h.advice s₁.known =
              (.error (.evaluation err), s'.known))) := by
  rw [collecting_apply] at hrun
  rcases hx : body { s with findings := {} } with ⟨c | d₁, s₁⟩
  · rw [hx] at hrun
    cases hrun
  · refine ⟨d₁, s₁, rfl, ?_⟩
    simp only [hx, conclude_apply, listed_eq] at hrun
    cases hd₁ : d₁.effect? with
    | none =>
      simp only [hd₁] at hrun
      cases hrun
      exact Or.inr ⟨hd₁, rfl, Or.inl rfl⟩
    | some e =>
      rcases hduties : env.evaluateDuties definitions e h.obligations h.advice s₁.known with
        ⟨(err | c) | duties, known⟩
      · simp only [hd₁, hduties] at hrun
        cases hrun
        exact Or.inr ⟨Version.effect?_indeterminate _ _, rfl, Or.inr ⟨e, err, hduties⟩⟩
      · simp only [hd₁, hduties] at hrun
        cases hrun
      · simp only [hd₁, hduties] at hrun
        cases hrun
        exact Or.inl ⟨e, duties, rfl, hd₁, hduties, rfl⟩

lemma accounted_collecting {kind : PolicyKind} {h : Heading} {body : NodeEvaluation Decision}
    {inner : List Visit} {s s' : Progress} {d : Decision}
    (hbody : ∀ d s', body { s with findings := {} } = (.ok d, s') →
      env.Settled definitions s'.known ∧ ∀ e, env.Contributes e inner {} s'.findings)
    (htarget : ¬ env.TargetFails h)
    (hrun : env.collecting kind h definitions body s = (.ok d, s')) :
    env.Settled definitions s'.known ∧ ∃ added, s'.findings = s.findings.append added ∧
      env.Concluded kind h definitions inner d added := by
  have hscoped : ∀ e, env.Scoped definitions
      (env.evaluateDuties definitions e h.obligations h.advice) := fun e => Scoped.duties e _ _
  obtain ⟨d₁, s₁, hx, hend⟩ := collecting_eq_ok hrun
  obtain ⟨hs₁, hcontributes⟩ := hbody d₁ s₁ hx
  rcases hend with ⟨e, duties, rfl, hd, hduties, hfindings⟩ | ⟨hd, hfindings, hknown⟩
  · refine ⟨(hscoped e).settled_of_eq hs₁ hduties (by simp), ?_⟩
    obtain ⟨f, hf, hrestrict⟩ := hcontributes e
    rw [Findings.restrict_empty, Findings.empty_append] at hrestrict
    have hvisit : env.visitDuties e (.node kind h definitions (.ok d₁) inner) = .ok duties :=
      (hscoped e).value_of_eq hs₁ hduties
    have happlies : (d₁ != .notApplicable) = true := by
      rw [Decision.effect?_eq_some.mp hd]
      cases e <;> rfl
    have hadded : s'.findings = s.findings.append (f.append ⟨duties.obligations, duties.advice,
        if env.collectPolicies then [(⟨kind, h.id, h.version⟩, some e)] else []⟩) := by
      rw [hfindings]
      simp [Findings.adopt_eq, hrestrict, Findings.addDuties, listing, happlies, hd,
        Findings.append]
    refine ⟨_, hadded, fun e' he' => ?_, fun hnone => ?_⟩
    · rw [hd] at he'
      cases he'
      rw [agreeing_node hd]
      exact hf.append (accounts_singleton hvisit)
    · rw [hd] at hnone
      cases hnone
  · refine ⟨?_, _, hfindings, fun e he => ?_, fun _ => Or.inr ⟨rfl, htarget⟩⟩
    · rcases hknown with hknown | ⟨e, err, hduties⟩
      · exact hknown ▸ hs₁
      · exact (hscoped e).settled_of_eq hs₁ hduties (by simp)
    · rw [hd] at he
      cases he

lemma entered_eq_some {h : Heading} {s s₁ : Progress} (hs : env.entered h s = some s₁) :
    s₁.known = s.known ∧ s₁.findings = s.findings := by
  unfold entered at hs
  split at hs
  · cases hs
    exact ⟨rfl, rfl⟩
  · split at hs
    · cases hs
      exact ⟨rfl, rfl⟩
    · cases hs
  · cases hs

/-- The body of a node is evaluated, or the node decides for no effect and nothing changes. -/
lemma whenApplicable_eq_ok {h : Heading} {body : Bool → NodeEvaluation Decision} {s s' : Progress}
    {d : Decision} (hrun : env.whenApplicable h body s = (.ok d, s')) :
    (d.effect? = none ∧ (d = .notApplicable ∨ env.TargetFails h) ∧ s'.known = s.known ∧
        s'.findings = s.findings) ∨
      ¬ env.TargetFails h ∧
        ∃ targetFailed s₁, env.entered h s = some s₁ ∧ body targetFailed s₁ = (.ok d, s') := by
  rw [whenApplicable_apply] at hrun
  unfold entered TargetFails
  rcases htarget : env.matchTarget h.target with c | _ | _ | err
  · simp only [htarget] at hrun
    cases hrun
  · simp only [htarget] at hrun
    exact Or.inr ⟨by simp, false, s, rfl, hrun⟩
  · simp only [htarget] at hrun
    cases hrun
    exact Or.inl ⟨rfl, Or.inl rfl, rfl, rfl⟩
  · cases hversion : env.version.isExtended with
    | false =>
      simp only [htarget, hversion] at hrun
      cases hrun
      exact Or.inl ⟨Version.effect?_indeterminate _ _, Or.inr ⟨rfl, err, rfl⟩, rfl, rfl⟩
    | true =>
      simp only [htarget, hversion, if_true] at hrun
      exact Or.inr ⟨by simp, true, s.recorded err, rfl, hrun⟩

/-- A policy or a policy set, given what it changes in the state for its body. -/
lemma accounted_node {kind : PolicyKind} {h : Heading} {change : Progress → Progress}
    {within : NodeEvaluation Decision → NodeEvaluation Decision}
    (hchange : ∀ s, (change s).known = s.known ∧ (change s).findings = s.findings)
    (hwithin : ∀ x s d s', within x s = (.ok d, s') → ∃ s₂, x (change s) = (.ok d, s₂) ∧
      s'.known = s₂.known ∧ s'.findings = s₂.findings)
    (hchildren : ∀ t ∈ children, env.Accounted definitions t) {s s' : Progress} {d : Decision}
    (hs : env.Settled definitions s.known)
    (hrun : env.whenApplicable h (fun targetFailed => within <|
      env.collecting kind h definitions <|
        env.combine h (children.map Traced.child) targetFailed) s = (.ok d, s')) :
    env.Settled definitions s'.known ∧ ∃ added, s'.findings = s.findings.append added ∧
      env.Concluded kind h definitions (env.visitsWithin change h children s) d added := by
  rcases whenApplicable_eq_ok hrun with
    ⟨hd, hnone, hknown, hfindings⟩ | ⟨htarget, targetFailed, s₁, hentered, hbody⟩
  · refine ⟨hknown ▸ hs, {}, by rw [hfindings, Findings.append_empty], fun e he => ?_,
      fun _ => Or.inl ⟨rfl, hnone⟩⟩
    rw [hd] at he
    cases he
  · obtain ⟨s₂, hcollecting, hknown, hfindings⟩ := hwithin _ _ _ _ hbody
    obtain ⟨hknown₁, hfindings₁⟩ := entered_eq_some hentered
    obtain ⟨hknown₂, hfindings₂⟩ := hchange s₁
    have hcombine : ∀ d s', env.combine h (children.map Traced.child) targetFailed
        { change s₁ with findings := {} } = (.ok d, s') → env.Settled definitions s'.known ∧
          ∀ e, env.Contributes e (env.visitsWithin change h children s) {} s'.findings := by
      intro d s' hrun
      have hsettled : env.Settled definitions { change s₁ with findings := {} }.known := by
        simpa only [hknown₂, hknown₁] using hs
      obtain ⟨hs', a, ha, hcontributes⟩ := accounted_combine hchildren hsettled hrun
      refine ⟨hs', fun e => ?_⟩
      rw [visitsWithin, hentered, ha]
      exact hcontributes e
    obtain ⟨hs', added, hadded, hconcluded⟩ := accounted_collecting hcombine htarget hcollecting
    refine ⟨hknown ▸ hs', added, ?_, hconcluded⟩
    rw [hfindings, hadded, hfindings₂, hfindings₁]

lemma accounted_policy {p : Policy} {s s' : Progress} {d : Decision}
    (hrun : env.evaluatePolicy p s = (.ok d, s')) :
    s'.known = s.known ∧ ∃ added, s'.findings = s.findings.append added ∧
      env.Concluded .policy p.heading p.definitions
        (env.visitsWithin id p.heading (p.rules.map (env.tracedRule p)) { s with known := ∅ })
        d added := by
  rw [evaluatePolicy, ← child_tracedRules] at hrun
  obtain ⟨s₁, hx, rfl⟩ := withFreshVariables_eq_ok hrun
  have hrules : ∀ t ∈ p.rules.map (env.tracedRule p), env.Accounted p.definitions t := by
    intro t ht
    obtain ⟨r, -, rfl⟩ := List.mem_map.mp ht
    exact accounted_tracedRule p r
  obtain ⟨-, hadded⟩ := @accounted_node env _ _ _ _ id id (fun s => ⟨rfl, rfl⟩)
    (fun x s d s' h => ⟨s', h, rfl, rfl⟩) hrules _ _ _ .start hx
  exact ⟨rfl, hadded⟩

end Node

end Environment
end PolicyDecision
