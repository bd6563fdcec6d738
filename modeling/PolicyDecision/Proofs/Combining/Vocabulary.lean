import PolicyDecision.Proofs.Combining.Registry
import PolicyDecision.Proofs.Decision
import PolicyDecision.Proofs.Stateful

/-! The decisions that a version of the policy language knows, and algorithms that keep to them. -/

namespace PolicyDecision

/-- Version 3.0 always says which effects a failed evaluation could have had; the older versions
never do. -/
def Version.vocabulary (version : Version) : List Decision :=
  if version.isExtended then
    [.permit, .deny, .notApplicable, .indeterminateD, .indeterminateP, .indeterminateDP]
  else [.permit, .deny, .notApplicable, .indeterminate]

section Vocabulary

variable {version : Version} {d : Decision}

lemma Version.mem_vocabulary_of_extended (hversion : version.isExtended = true) :
    d ∈ version.vocabulary ↔ d ≠ .indeterminate := by
  rw [vocabulary, if_pos hversion]
  cases d <;> simp

lemma Version.mem_vocabulary_of_legacy (hversion : version.isExtended = false) :
    d ∈ version.vocabulary ↔ d.toLegacy = d := by
  rw [vocabulary, if_neg (by simp [hversion])]
  cases d <;> simp [Decision.toLegacy, Decision.isIndeterminate]

lemma Effect.decision_mem_vocabulary (e : Effect) : e.decision ∈ version.vocabulary := by
  cases version <;> cases e <;> decide

lemma Version.notApplicable_mem_vocabulary : .notApplicable ∈ version.vocabulary := by
  cases version <;> decide

lemma Version.indeterminate_mem_vocabulary (possible : Option Effect) :
    version.indeterminate possible ∈ version.vocabulary := by
  cases version <;> rcases possible with _ | _ | _ <;> decide

lemma Version.shown_mem_vocabulary (hd : d ∈ version.vocabulary) :
    version.shown d ∈ version.vocabulary := by
  cases hversion : version.isExtended with
  | true => simpa [shown, hversion] using hd
  | false =>
    have hshown : version.shown d = d := by
      rw [shown, if_neg (by simp [hversion]), (mem_vocabulary_of_legacy hversion).mp hd]
    rwa [hshown]

/-- Only version 3.0 has words for a decision that is weakened. -/
lemma Version.promoted_mem_vocabulary (hversion : version.isExtended = true) :
    d.promoted ∈ version.vocabulary := by
  rw [mem_vocabulary_of_extended hversion]
  cases d <;> simp [Decision.promoted]

lemma Version.oriented_mem_vocabulary (dominant : Effect) (hd : d ∈ version.vocabulary) :
    Combining.oriented dominant d ∈ version.vocabulary := by
  revert hd
  cases version <;> cases dominant <;> cases d <;> decide

end Vocabulary

variable {n : ℕ} {version : Version}

/-- The plan keeps to the decisions of the version if the children do. -/
def Plan.SpeaksAs (version : Version) : Plan n → Prop
  | .decide d => d ∈ version.vocabulary
  | .evaluate _ next => ∀ d ∈ version.vocabulary, (next d).SpeaksAs version
  | .probe _ next => ∀ m, (next m).SpeaksAs version

open Stateful in
/-- A run over children that keep to the decisions of the version does so too. -/
theorem Plan.SpeaksAs.run {evaluate : Fin n → NodeEvaluation Decision}
    {probe : Fin n → NodeEvaluation MatchResult}
    (hevaluate : ∀ i s d s', evaluate i s = (.ok d, s') → d ∈ version.vocabulary)
    {plan : Plan n} (hplan : plan.SpeaksAs version) {s s' : Progress} {d : Decision}
    (hrun : plan.run evaluate probe s = (.ok d, s')) : d ∈ version.vocabulary := by
  induction plan generalizing s with
  | decide d' =>
    cases hrun
    exact hplan
  | evaluate i next ih =>
    obtain ⟨d₁, s₁, hi, hrest⟩ := bind_eq_ok.mp hrun
    exact ih d₁ (hplan d₁ (hevaluate i s d₁ s₁ hi)) hrest
  | probe i next ih =>
    obtain ⟨m, s₁, -, hrest⟩ := bind_eq_ok.mp hrun
    exact ih m (hplan m) hrest

def CombiningAlgorithm.KeepsVocabulary (a : CombiningAlgorithm) : Prop :=
  ∀ n children parameters version, (a n children parameters version).SpeaksAs version

namespace Combining

section Overrides

variable {dominant : Effect}

lemma speaksAs_unless_deny {d : Decision} {next : Plan n} (hnext : next.SpeaksAs version) :
    (if oriented dominant d = .deny then .decide dominant.decision
      else next : Plan n).SpeaksAs version := by
  split
  · exact dominant.decision_mem_vocabulary
  · exact hnext

lemma Tally.decision_mem_vocabulary (hversion : version.isExtended = true) (t : Tally) :
    t.decision ∈ version.vocabulary := by
  rw [Version.mem_vocabulary_of_extended hversion, decision]
  split_ifs <;> simp

lemma LegacyTally.decision_mem_vocabulary (hversion : version.isExtended = false)
    (t : LegacyTally) : t.decision ∈ version.vocabulary := by
  rw [Version.mem_vocabulary_of_legacy hversion, decision]
  split_ifs <;> rfl

lemma speaksAs_extendedOverridesFrom (hversion : version.isExtended = true) (t : Tally)
    (is : List (Fin n)) : (extendedOverridesFrom dominant t is).SpeaksAs version := by
  induction is generalizing t with
  | nil => exact Version.oriented_mem_vocabulary dominant (t.decision_mem_vocabulary hversion)
  | cons i is ih =>
    intro d _
    exact speaksAs_unless_deny (ih _)

lemma speaksAs_legacyOverridesFrom (hversion : version.isExtended = false)
    (effect : Fin n → Option Effect) (t : LegacyTally) (is : List (Fin n)) :
    (legacyOverridesFrom dominant effect t is).SpeaksAs version := by
  induction is generalizing t with
  | nil => exact Version.oriented_mem_vocabulary dominant (t.decision_mem_vocabulary hversion)
  | cons i is ih =>
    intro d _
    exact speaksAs_unless_deny (ih _)

lemma keepsVocabulary_overrides (dominant : Effect) : (overrides dominant).KeepsVocabulary := by
  intro n children parameters version
  unfold overrides
  cases hversion : version.isExtended with
  | true => exact speaksAs_extendedOverridesFrom hversion {} _
  | false => exact speaksAs_legacyOverridesFrom hversion _ {} _

end Overrides

lemma keepsVocabulary_firstApplicable : firstApplicable.KeepsVocabulary := by
  intro n children parameters version
  change (firstApplicableOf version (List.finRange n)).SpeaksAs version
  induction List.finRange n with
  | nil => exact Version.notApplicable_mem_vocabulary
  | cons i is ih =>
    intro d hd
    change (if d = .notApplicable then _ else _ : Plan n).SpeaksAs version
    split
    · exact ih
    · exact Version.shown_mem_vocabulary hd

lemma speaksAs_onlyOneApplicableOf (matched : Option (Fin n)) (is : List (Fin n)) :
    (onlyOneApplicableOf version matched is).SpeaksAs version := by
  have hfailed : (Plan.decide (version.indeterminate none) : Plan n).SpeaksAs version :=
    Version.indeterminate_mem_vocabulary none
  induction is generalizing matched with
  | nil =>
    cases matched with
    | none => exact Version.notApplicable_mem_vocabulary
    | some i =>
      intro d hd
      exact Version.shown_mem_vocabulary hd
  | cons i is ih =>
    intro m
    cases m with
    | noMatch => exact ih matched
    | indeterminate err => exact hfailed
    | isMatch =>
      change (if matched.isNone then _ else _ : Plan n).SpeaksAs version
      split
      · exact ih (some i)
      · exact hfailed

lemma keepsVocabulary_onlyOneApplicable : onlyOneApplicable.KeepsVocabulary :=
  fun _ _ _ _ => speaksAs_onlyOneApplicableOf none _

lemma keepsVocabulary_byDefault (default : Effect) : (byDefault default).KeepsVocabulary := by
  intro n children parameters version
  change (defaultOf default (List.finRange n)).SpeaksAs version
  induction List.finRange n with
  | nil => exact default.decision_mem_vocabulary
  | cons i is ih =>
    intro d hd
    change (if d = default.opposite.decision then _ else _ : Plan n).SpeaksAs version
    split
    · exact hd
    · exact ih

end Combining

theorem StandardAlgorithm.keepsVocabulary (a : StandardAlgorithm) :
    a.algorithm.KeepsVocabulary := by
  cases a with
  | denyOverrides => exact Combining.keepsVocabulary_overrides .deny
  | permitOverrides => exact Combining.keepsVocabulary_overrides .permit
  | firstApplicable => exact Combining.keepsVocabulary_firstApplicable
  | onlyOneApplicable => exact Combining.keepsVocabulary_onlyOneApplicable
  | denyUnlessPermit => exact Combining.keepsVocabulary_byDefault .deny
  | permitUnlessDeny => exact Combining.keepsVocabulary_byDefault .permit

end PolicyDecision
