import PolicyDecision.Combining.Registry
import PolicyDecision.Proofs.Combining.Transcript
import PolicyDecision.Proofs.Decision

/-! Algorithms that decide for an effect only if a child does. -/

namespace PolicyDecision

variable {n : ℕ} {e : Effect}

/-- The plan does not decide for the effect unless a child does. -/
def Plan.Defers (e : Effect) : Plan n → Prop
  | .decide d => d.effect? ≠ some e
  | .evaluate _ next => ∀ d, d.effect? ≠ some e → (next d).Defers e
  | .probe _ next => ∀ m, (next m).Defers e

def CombiningAlgorithm.Defers (e : Effect) (a : CombiningAlgorithm) : Prop :=
  ∀ n children parameters version, (a n children parameters version).Defers e

/-- If a run of such a plan decides for the effect then so does a child, in a state with a property
that the children keep. -/
theorem Plan.Defers.exists_evaluated {P : Progress → Prop}
    {evaluate : Fin n → NodeEvaluation Decision} {probe : Fin n → NodeEvaluation MatchResult}
    (hevaluate : ∀ i s d s', P s → evaluate i s = (.ok d, s') → P s')
    (hprobe : ∀ i s m s', P s → probe i s = (.ok m, s') → P s') {plan : Plan n}
    (hplan : plan.Defers e) {s s' : Progress} {d : Decision} (hs : P s)
    (hrun : plan.run evaluate probe s = (.ok d, s')) (hd : d.effect? = some e) :
    ∃ i start d' after, P start ∧ evaluate i start = (.ok d', after) ∧ d'.effect? = some e ∧
      .evaluated i start (.ok d') ∈ plan.transcript evaluate probe s := by
  induction plan generalizing s with
  | decide d' =>
    cases hrun
    exact absurd hd hplan
  | evaluate i next ih =>
    obtain ⟨d₁, s₁, hi, hrest⟩ := Stateful.bind_eq_ok.mp hrun
    rw [transcript_evaluate hi]
    by_cases hd₁ : d₁.effect? = some e
    · exact ⟨i, s, d₁, s₁, hs, hi, hd₁, List.mem_cons_self⟩
    · obtain ⟨j, start, d', after, hstart, hj, hd', hmem⟩ :=
        ih d₁ (hplan d₁ hd₁) (hevaluate i s d₁ s₁ hs hi) hrest
      exact ⟨j, start, d', after, hstart, hj, hd', List.mem_cons_of_mem _ hmem⟩
  | probe i next ih =>
    obtain ⟨m, s₁, hi, hrest⟩ := Stateful.bind_eq_ok.mp hrun
    rw [transcript_probe hi]
    obtain ⟨j, start, d', after, hstart, hj, hd', hmem⟩ :=
      ih m (hplan m) (hprobe i s m s₁ hs hi) hrest
    exact ⟨j, start, d', after, hstart, hj, hd', List.mem_cons_of_mem _ hmem⟩

namespace Combining

section Overrides

variable {dominant : Effect} {d : Decision}

lemma eq_of_oriented_eq_deny (h : oriented dominant d = .deny) : d = dominant.decision := by
  cases dominant <;> cases d <;> first | rfl | cases h

lemma eq_of_oriented_eq_permit (h : oriented dominant d = .permit) :
    d = dominant.opposite.decision := by
  cases dominant <;> cases d <;> first | rfl | cases h

/-- A permit that is seen turned stands for the effect that is not dominant. -/
lemma dominant_of_permit (hd : d.effect? ≠ some e) (h : oriented dominant d = .permit) :
    e = dominant := by
  by_contra hne
  rw [eq_of_oriented_eq_permit h, ← Effect.opposite_of_ne hne] at hd
  exact hd (Decision.effect?_eq_some.mpr rfl)

lemma effect?_oriented_ne (hdeny : d ≠ .deny) (hpermit : d = .permit → e = dominant) :
    (oriented dominant d).effect? ≠ some e := by
  intro h
  have hd : oriented dominant d = e.decision := Decision.effect?_eq_some.mp h
  cases d with
  | permit =>
    obtain rfl := hpermit rfl
    cases e <;> cases hd
  | deny => exact hdeny rfl
  | _ => cases dominant <;> cases e <;> cases hd

/-- A child that decides for the dominant effect ends the evaluation. -/
lemma defers_unless_deny {next : Plan n} (hd : d.effect? ≠ some e) (hnext : next.Defers e) :
    (if oriented dominant d = .deny then .decide dominant.decision else next : Plan n).Defers e := by
  split
  · rename_i hdeny
    rwa [eq_of_oriented_eq_deny hdeny] at hd
  · exact hnext

namespace Tally

variable (t : Tally)

lemma decision_ne_deny : t.decision ≠ .deny := by
  unfold decision
  split_ifs <;> simp

lemma permit_of_decision (h : t.decision = .permit) : t.permit = true := by
  unfold decision at h
  split_ifs at h
  assumption

lemma permit_add (h : (t.add d).permit = true) : t.permit = true ∨ d = .permit := by
  cases d <;> first | exact Or.inl h | exact Or.inr rfl

end Tally

namespace LegacyTally

variable (t : LegacyTally)

lemma decision_ne_deny : t.decision ≠ .deny := by
  unfold decision
  split_ifs <;> simp

lemma permit_of_decision (h : t.decision = .permit) : t.permit = true := by
  unfold decision at h
  split_ifs at h
  assumption

lemma permit_add {effect : Option Effect} (h : (t.add effect d).permit = true) :
    t.permit = true ∨ d = .permit := by
  cases d <;> first | exact Or.inl h | exact Or.inr rfl

end LegacyTally

/-- So far no child has decided for the effect, unless that is the dominant one. -/
lemma defers_extendedOverridesFrom {t : Tally} (ht : t.permit = true → e = dominant)
    (is : List (Fin n)) : (extendedOverridesFrom dominant t is).Defers e := by
  induction is generalizing t with
  | nil =>
    exact effect?_oriented_ne t.decision_ne_deny fun h => ht (t.permit_of_decision h)
  | cons i is ih =>
    intro d hd
    refine defers_unless_deny hd (ih fun hpermit => ?_)
    rcases t.permit_add hpermit with h | h
    · exact ht h
    · exact dominant_of_permit hd h

lemma defers_legacyOverridesFrom {effect : Fin n → Option Effect} {t : LegacyTally}
    (ht : t.permit = true → e = dominant) (is : List (Fin n)) :
    (legacyOverridesFrom dominant effect t is).Defers e := by
  induction is generalizing t with
  | nil =>
    exact effect?_oriented_ne t.decision_ne_deny fun h => ht (t.permit_of_decision h)
  | cons i is ih =>
    intro d hd
    refine defers_unless_deny hd (ih fun hpermit => ?_)
    rcases t.permit_add hpermit with h | h
    · exact ht h
    · exact dominant_of_permit hd h

lemma defers_overrides (dominant e : Effect) : (overrides dominant).Defers e := by
  intro n children parameters version
  unfold overrides
  split
  · exact defers_extendedOverridesFrom (by simp) _
  · exact defers_legacyOverridesFrom (by simp) _

end Overrides

lemma defers_firstApplicable (e : Effect) : firstApplicable.Defers e := by
  intro n children parameters version
  change (firstApplicableOf version (List.finRange n)).Defers e
  induction List.finRange n with
  | nil => exact Option.some_ne_none e ∘ Eq.symm
  | cons i is ih =>
    intro d hd
    by_cases h : d = .notApplicable
    · simpa only [h, if_true] using ih
    · simp only [h, if_false]
      change (version.shown d).effect? ≠ some e
      rwa [version.effect?_shown]

lemma defers_onlyOneApplicableOf (version : Version) (matched : Option (Fin n))
    (is : List (Fin n)) : (onlyOneApplicableOf version matched is).Defers e := by
  have hfailed : (Plan.decide (version.indeterminate none) : Plan n).Defers e := by
    change (version.indeterminate none).effect? ≠ some e
    rw [version.effect?_indeterminate]
    simp
  induction is generalizing matched with
  | nil =>
    cases matched with
    | none => exact Option.some_ne_none e ∘ Eq.symm
    | some i =>
      intro d hd
      change (version.shown d).effect? ≠ some e
      rwa [version.effect?_shown]
  | cons i is ih =>
    intro m
    cases m with
    | noMatch => exact ih matched
    | indeterminate err => exact hfailed
    | isMatch =>
      change (if matched.isNone then _ else _ : Plan n).Defers e
      split
      · exact ih (some i)
      · exact hfailed

lemma defers_onlyOneApplicable (e : Effect) : onlyOneApplicable.Defers e :=
  fun _ _ _ version => defers_onlyOneApplicableOf version none _

/-- An algorithm with the other default decides for the effect when it finds a child that does. -/
lemma defers_byDefault {default : Effect} (hne : e ≠ default) :
    (byDefault default).Defers e := by
  intro n children parameters version
  change (defaultOf default (List.finRange n)).Defers e
  induction List.finRange n with
  | nil =>
    intro hd
    exact hne (Effect.decision_injective (Decision.effect?_eq_some.mp hd)).symm
  | cons i is ih =>
    intro d hd
    by_cases hother : d = default.opposite.decision
    · simp only [hother, if_true]
      exact hother ▸ hd
    · simpa only [hother, if_false] using ih

end Combining

/-- The algorithm that decides for the effect when no child decides otherwise. -/
def StandardAlgorithm.defaultingTo : Effect → StandardAlgorithm
  | .permit => permitUnlessDeny
  | .deny => denyUnlessPermit

theorem StandardAlgorithm.defers {a : StandardAlgorithm} (ha : a ≠ defaultingTo e) :
    a.algorithm.Defers e := by
  cases a with
  | denyOverrides => exact Combining.defers_overrides .deny e
  | permitOverrides => exact Combining.defers_overrides .permit e
  | firstApplicable => exact Combining.defers_firstApplicable e
  | onlyOneApplicable => exact Combining.defers_onlyOneApplicable e
  | denyUnlessPermit =>
    refine Combining.defers_byDefault ?_
    rintro rfl
    exact ha rfl
  | permitUnlessDeny =>
    refine Combining.defers_byDefault ?_
    rintro rfl
    exact ha rfl

end PolicyDecision
