import PolicyDecision.Proofs.Variable.Scope
import PolicyDecision.Proofs.Visit.Tree

/-! What visits contribute to the findings of a request. -/

namespace PolicyDecision

open Stateful

namespace Findings

/-- The findings of the first and then those of the second. -/
def append (f g : Findings) : Findings :=
  ⟨f.obligations ++ g.obligations, f.advice ++ g.advice, f.policies ++ g.policies⟩

/-- Those that go with an effect. -/
def restrict (f : Findings) (e : Effect) : Findings where
  obligations := f.obligations.filter (·.effect == e)
  advice := f.advice.filter (·.effect == e)
  policies := f.policies.filter (·.2 == some e)

lemma adopt_eq (outer inner : Findings) (e : Effect) :
    outer.adopt inner e = outer.append (inner.restrict e) := rfl

@[simp] lemma append_empty (f : Findings) : f.append {} = f := by simp [append]

@[simp] lemma empty_append (f : Findings) : append {} f = f := by simp [append]

lemma append_assoc (f g h : Findings) : (f.append g).append h = f.append (g.append h) := by
  simp [append]

@[simp] lemma restrict_empty (e : Effect) : restrict {} e = {} := by simp [restrict]

@[simp] lemma restrict_append (f g : Findings) (e : Effect) :
    (f.append g).restrict e = (f.restrict e).append (g.restrict e) := by
  simp [append, restrict]

/-- Everything goes with the effect. -/
structure All (e : Effect) (f : Findings) : Prop where
  obligations : ∀ o ∈ f.obligations, o.effect = e
  advice : ∀ o ∈ f.advice, o.effect = e
  policies : ∀ p ∈ f.policies, p.2 = some e

lemma All.restrict_self {e : Effect} {f : Findings} (h : f.All e) : f.restrict e = f := by
  have ho : f.obligations.filter (·.effect == e) = f.obligations :=
    List.filter_eq_self.mpr fun o ho => by simp [h.obligations o ho]
  have ha : f.advice.filter (·.effect == e) = f.advice :=
    List.filter_eq_self.mpr fun o ho => by simp [h.advice o ho]
  have hp : f.policies.filter (·.2 == some e) = f.policies :=
    List.filter_eq_self.mpr fun p hp => by simp [h.policies p hp]
  rw [restrict, ho, ha, hp]

lemma All.restrict_of_ne {e e' : Effect} {f : Findings} (h : f.All e) (hne : e' ≠ e) :
    f.restrict e' = {} := by
  have ho : f.obligations.filter (·.effect == e') = [] :=
    List.filter_eq_nil_iff.mpr fun o ho => by simp [h.obligations o ho, hne.symm]
  have ha : f.advice.filter (·.effect == e') = [] :=
    List.filter_eq_nil_iff.mpr fun o ho => by simp [h.advice o ho, hne.symm]
  have hp : f.policies.filter (·.2 == some e') = [] :=
    List.filter_eq_nil_iff.mpr fun p hp => by simp [h.policies p hp, hne.symm]
  rw [restrict, ho, ha, hp]

end Findings

namespace Environment

variable (env : Environment)

/-- The obligations and the advice that a visited node itself has for an effect. Those of rules
count since version 3.0. -/
def visitDuties (e : Effect) : Visit → Except Fault Duties
  | .rule p r _ =>
    if env.version.isExtended then
      (env.evaluateDuties p.definitions e r.obligations r.advice ∅).1
    else .ok {}
  | .node _ h definitions _ _ =>
    (env.evaluateDuties definitions e h.obligations h.advice ∅).1

/-- The findings are the duties of the visits, one visit after the other, and, if nodes are listed,
the visited policies and policy sets. -/
structure Accounts (e : Effect) (visits : List Visit) (f : Findings) : Prop where
  duties : ∃ duties, visits.mapM (env.visitDuties e) = .ok duties ∧
    f.obligations = duties.flatMap (·.obligations) ∧ f.advice = duties.flatMap (·.advice)
  policies : f.policies =
    if env.collectPolicies then (visits.filterMap Visit.identifier?).map (·, some e) else []

variable {env} {e : Effect}

lemma accounts_nil : env.Accounts e [] {} :=
  ⟨⟨[], rfl, rfl, rfl⟩, by simp⟩

lemma Accounts.append {vs ws : List Visit} {f g : Findings} (hf : env.Accounts e vs f)
    (hg : env.Accounts e ws g) : env.Accounts e (vs ++ ws) (f.append g) := by
  obtain ⟨ds, hds, hfo, hfa⟩ := hf.duties
  obtain ⟨ds', hds', hgo, hga⟩ := hg.duties
  refine ⟨⟨ds ++ ds', ?_, ?_, ?_⟩, ?_⟩
  · rw [List.mapM_append, hds, hds']
    rfl
  · rw [Findings.append, hfo, hgo, List.flatMap_append]
  · rw [Findings.append, hfa, hga, List.flatMap_append]
  · rw [Findings.append, hf.policies, hg.policies]
    cases env.collectPolicies <;> simp

section Duties

variable {definitions : List VariableDefinition} {known : VariableStates}

lemma effect_of_evaluateObligations {expressions : List ObligationExpression}
    {os : List Obligation} {known' : VariableStates}
    (h : env.evaluateObligations definitions e expressions known = (.ok os, known')) :
    ∀ o ∈ os, o.effect = e := by
  refine forall_of_mapM_eq_ok (fun x o s s' ho => ?_) h
  obtain ⟨assignments, s₁, -, ho⟩ := bind_eq_ok.mp ho
  cases ho
  rfl

lemma effect_of_evaluateDuties {obligations advice : List ObligationExpression} {d : Duties}
    {known' : VariableStates}
    (h : env.evaluateDuties definitions e obligations advice known = (.ok d, known')) :
    (∀ o ∈ d.obligations, o.effect = e) ∧ ∀ o ∈ d.advice, o.effect = e := by
  obtain ⟨os, known₁, hos, h⟩ := bind_eq_ok.mp h
  obtain ⟨as, known₂, has, h⟩ := bind_eq_ok.mp h
  cases h
  exact ⟨effect_of_evaluateObligations hos, effect_of_evaluateObligations has⟩

lemma effect_of_visitDuties {v : Visit} {d : Duties} (h : env.visitDuties e v = .ok d) :
    (∀ o ∈ d.obligations, o.effect = e) ∧ ∀ o ∈ d.advice, o.effect = e := by
  cases v with
  | rule p r outcome =>
    rw [visitDuties] at h
    split at h
    · exact effect_of_evaluateDuties (Prod.ext h rfl)
    · cases h
      simp
  | node kind heading definitions outcome inner =>
    rw [visitDuties] at h
    exact effect_of_evaluateDuties (Prod.ext h rfl)

end Duties

/-- Whatever visits contribute for an effect goes with that effect. -/
lemma Accounts.all {vs : List Visit} {f : Findings} (h : env.Accounts e vs f) : f.All e := by
  obtain ⟨ds, hds, ho, ha⟩ := h.duties
  have heffects := forall_of_except_mapM_eq_ok (fun v d hd => effect_of_visitDuties hd) hds
  refine ⟨fun o hmem => ?_, fun o hmem => ?_, fun p hp => ?_⟩
  · rw [ho] at hmem
    obtain ⟨d, hd, hmem⟩ := List.mem_flatMap.mp hmem
    exact (heffects d hd).1 o hmem
  · rw [ha] at hmem
    obtain ⟨d, hd, hmem⟩ := List.mem_flatMap.mp hmem
    exact (heffects d hd).2 o hmem
  · rw [h.policies] at hp
    split at hp
    · obtain ⟨i, -, rfl⟩ := List.mem_map.mp hp
      rfl
    · cases hp

end Environment
end PolicyDecision
