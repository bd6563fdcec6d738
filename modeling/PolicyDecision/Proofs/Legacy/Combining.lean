import PolicyDecision.Combining.Registry
import PolicyDecision.Proofs.Correspondence.Node

/-! Rules combined before version 3.0 and since. An indeterminate rule could only have had its own
effect, so that the older algorithms, which are told the effects of the rules, decide like the newer
ones, which see them in the decisions. -/

namespace PolicyDecision

open Stateful NodeEvaluation Environment

namespace Decision

/-- What a rule with the effect can decide. -/
def OfRule (e : Effect) (d : Decision) : Prop :=
  d = .notApplicable ∨ d = e.decision ∨ d = e.indeterminate

@[simp] lemma toLegacy_eq_notApplicable {d : Decision} :
    d.toLegacy = .notApplicable ↔ d = .notApplicable := by
  cases d <;> simp [toLegacy, isIndeterminate]

@[simp] lemma effect?_toLegacy (d : Decision) : d.toLegacy.effect? = d.effect? := by
  cases d <;> rfl

@[simp] lemma isIndeterminate_toLegacy (d : Decision) :
    d.toLegacy.isIndeterminate = d.isIndeterminate := by
  cases d <;> rfl

end Decision

@[simp] lemma Effect.toLegacy_decision (e : Effect) : e.decision.toLegacy = e.decision := by
  cases e <;> rfl

namespace Version

variable {version : Version} (hlegacy : version.isExtended = false)
include hlegacy

lemma indeterminate_toLegacy (possible : Option Effect) :
    (v3_0.indeterminate possible).toLegacy = version.indeterminate possible := by
  unfold indeterminate
  rw [hlegacy]
  rcases possible with _ | _ | _ <;> rfl

lemma shown_toLegacy (d : Decision) : (v3_0.shown d).toLegacy = version.shown d.toLegacy := by
  unfold shown
  rw [hlegacy]
  cases d <;> rfl

end Version

namespace Plan

variable {n : ℕ} {effect : Fin n → Effect}

/-- The first plan goes like the second without telling indeterminate decisions apart, as long as
the children decide like rules with the given effects. -/
inductive Collapsed (effect : Fin n → Effect) : Plan n → Plan n → Prop
  | decide (d : Decision) : Collapsed effect (.decide d.toLegacy) (.decide d)
  | evaluate (i : Fin n) {next next' : Decision → Plan n}
      (h : ∀ d, d.OfRule (effect i) → Collapsed effect (next d.toLegacy) (next' d)) :
      Collapsed effect (.evaluate i next) (.evaluate i next')

/-- The decision if no child applies. -/
def fallback : Plan n → Decision
  | .decide d => d
  | .evaluate _ next => (next .notApplicable).fallback
  | .probe _ next => (next .noMatch).fallback

section Run

variable {evaluate evaluate' : Fin n → NodeEvaluation Decision}

/-- Nothing is said of the probes, for there are none in such plans. -/
lemma Collapsed.runNoted_eq (probe probe' : Fin n → NodeEvaluation MatchResult)
    {plan plan' : Plan n} (h : plan.Collapsed effect plan')
    (hevaluate : ∀ i, evaluate i = Decision.toLegacy <$> evaluate' i)
    (hrule : ∀ i s d s', evaluate' i s = (.ok d, s') → d.OfRule (effect i)) (applied : Bool) :
    plan.runNoted evaluate probe applied =
      Prod.map Decision.toLegacy id <$> plan'.runNoted evaluate' probe' applied := by
  funext s
  induction h generalizing applied s with
  | decide d => rfl
  | evaluate i h ih =>
    rw [map_apply, runNoted_evaluate, runNoted_evaluate, bind_apply, bind_apply,
      noteDecision_apply, noteDecision_apply, hevaluate, map_apply]
    rcases hx : evaluate' i s with ⟨e | d, s'⟩
    · rfl
    · have happlied : (d.toLegacy != .notApplicable) = (d != .notApplicable) :=
        Bool.eq_iff_iff.mpr (by simp)
      have hnext := ih d (hrule i s d s' hx) (applied || d != .notApplicable) s'
      rw [map_apply] at hnext
      simpa only [Except.map, happlied] using hnext

/-- Unless some child applies it is the fallback that is decided. -/
lemma fallback_of_runNoted {probe : Fin n → NodeEvaluation MatchResult} {plan : Plan n}
    {applied : Bool} {s s' : Progress} {d : Decision}
    (hrun : plan.runNoted evaluate probe applied s = (.ok (d, false), s')) :
    applied = false ∧ d = plan.fallback := by
  induction plan generalizing applied s with
  | decide d' =>
    cases hrun
    exact ⟨rfl, rfl⟩
  | evaluate i next ih =>
    rw [runNoted_evaluate, bind_apply, noteDecision_apply] at hrun
    rcases hx : evaluate i s with ⟨e | d₁, s₁⟩
    · rw [hx] at hrun
      cases hrun
    · rw [hx] at hrun
      obtain ⟨happlied, hd⟩ := ih d₁ hrun
      simp only [Bool.or_eq_false_iff, bne_eq_false_iff_eq] at happlied
      obtain ⟨happlied, rfl⟩ := happlied
      exact ⟨happlied, hd⟩
  | probe i next ih =>
    rw [runNoted_probe, bind_apply, noteMatch_apply] at hrun
    rcases hx : recording (probe i) s with ⟨e | m, s₁⟩
    · rw [hx] at hrun
      cases hrun
    · rw [hx] at hrun
      obtain ⟨happlied, hd⟩ := ih m hrun
      simp only [Bool.or_eq_false_iff, bne_eq_false_iff_eq] at happlied
      obtain ⟨happlied, rfl⟩ := happlied
      exact ⟨happlied, hd⟩

end Run

end Plan

namespace Combining

section Overrides

variable {dominant e : Effect} {d : Decision}

lemma oriented_toLegacy : oriented dominant d.toLegacy = (oriented dominant d).toLegacy := by
  cases dominant <;> cases d <;> rfl

lemma oriented_toLegacy_eq_deny :
    oriented dominant d.toLegacy = .deny ↔ oriented dominant d = .deny := by
  cases dominant <;> cases d <;> decide

/-- The older tally is what the newer one knows: a possible denial is an error of a child that could
only have denied. -/
structure Tally.Collapses (t : Tally) (legacy : LegacyTally) : Prop where
  permit : legacy.permit = t.permit
  potentialDeny : legacy.potentialDeny = t.errorD
  error : legacy.error = (t.errorD || t.errorP)
  errorDP : t.errorDP = false

lemma Tally.Collapses.add {t : Tally} {legacy : LegacyTally} (h : t.Collapses legacy)
    (hd : d.OfRule e) :
    (t.add (oriented dominant d)).Collapses
      (legacy.add (orientedEffect dominant (some e)) (oriented dominant d.toLegacy)) := by
  obtain ⟨hpermit, hdeny, herror, hDP⟩ := h
  rcases hd with rfl | rfl | rfl <;> cases dominant <;> cases e <;> constructor <;>
    simp [Tally.add, LegacyTally.add, oriented, orientedEffect, Decision.toLegacy,
      Decision.isIndeterminate, Decision.opposite, Effect.decision, Effect.indeterminate,
      Effect.opposite, hpermit, hdeny, herror, hDP]

lemma Tally.Collapses.decision {t : Tally} {legacy : LegacyTally} (h : t.Collapses legacy) :
    legacy.decision = t.decision.toLegacy := by
  obtain ⟨hpermit, hdeny, herror, hDP⟩ := h
  unfold Tally.decision LegacyTally.decision
  rw [hpermit, hdeny, herror, hDP]
  cases t.permit <;> cases t.errorD <;> cases t.errorP <;> rfl

variable {n : ℕ} {effect : Fin n → Effect}

lemma collapsed_overridesFrom {t : Tally} {legacy : LegacyTally} (h : t.Collapses legacy)
    (is : List (Fin n)) :
    (legacyOverridesFrom dominant (fun i => some (effect i)) legacy is).Collapsed effect
      (extendedOverridesFrom dominant t is) := by
  induction is generalizing t legacy with
  | nil =>
    rw [legacyOverridesFrom, extendedOverridesFrom, h.decision, oriented_toLegacy]
    exact .decide _
  | cons i is ih =>
    refine .evaluate i fun d hd => ?_
    by_cases hdeny : oriented dominant d = .deny
    · rw [if_pos hdeny, if_pos (oriented_toLegacy_eq_deny.mpr hdeny)]
      have hdecide : Plan.Collapsed effect (.decide dominant.decision.toLegacy)
          (.decide dominant.decision) := .decide _
      rwa [Effect.toLegacy_decision] at hdecide
    · rw [if_neg hdeny, if_neg (mt oriented_toLegacy_eq_deny.mp hdeny)]
      exact ih (h.add hd)

lemma fallback_extendedOverridesFrom (t : Tally) (is : List (Fin n)) :
    (extendedOverridesFrom dominant t is).fallback = oriented dominant t.decision := by
  have hnone : oriented dominant .notApplicable = .notApplicable := by cases dominant <;> rfl
  induction is with
  | nil => rfl
  | cons i is ih =>
    rw [extendedOverridesFrom, Plan.fallback, hnone]
    exact ih

end Overrides

section FirstApplicable

variable {n : ℕ} {effect : Fin n → Effect}

lemma collapsed_firstApplicableOf {version : Version} (hlegacy : version.isExtended = false)
    (is : List (Fin n)) :
    (firstApplicableOf version is).Collapsed effect (firstApplicableOf .v3_0 is) := by
  induction is with
  | nil => exact .decide .notApplicable
  | cons i is ih =>
    refine .evaluate i fun d _ => ?_
    by_cases hd : d = .notApplicable
    · rw [if_pos hd, if_pos (Decision.toLegacy_eq_notApplicable.mpr hd)]
      exact ih
    · rw [if_neg hd, if_neg (mt Decision.toLegacy_eq_notApplicable.mp hd),
        ← Version.shown_toLegacy hlegacy]
      exact .decide _

lemma fallback_firstApplicableOf (version : Version) (is : List (Fin n)) :
    (firstApplicableOf version is).fallback = .notApplicable := by
  induction is with
  | nil => rfl
  | cons i is ih =>
    rw [firstApplicableOf, Plan.fallback, if_pos rfl]
    exact ih

end FirstApplicable

end Combining

open Combining

namespace StandardAlgorithm

/-- The algorithms that rules can be combined by in every version with the same outcome. -/
def agreeing : List StandardAlgorithm := [denyOverrides, permitOverrides, firstApplicable]

variable {a : StandardAlgorithm} {n : ℕ} {info : Fin n → ChildInfo} {effect : Fin n → Effect}

theorem collapsed (ha : a ∈ agreeing) {version : Version} (hlegacy : version.isExtended = false)
    (hinfo : ∀ i, (info i).hint = some (effect i)) (parameters : List Parameter) :
    (a.algorithm n info parameters version).Collapsed effect
      (a.algorithm n info parameters .v3_0) := by
  have hoverrides : ∀ dominant, (overrides dominant n info parameters version).Collapsed effect
      (overrides dominant n info parameters .v3_0) := by
    intro dominant
    unfold overrides
    rw [hlegacy, funext hinfo]
    exact collapsed_overridesFrom ⟨rfl, rfl, rfl, rfl⟩ _
  cases a with
  | denyOverrides => exact hoverrides .deny
  | permitOverrides => exact hoverrides .permit
  | firstApplicable => exact collapsed_firstApplicableOf hlegacy _
  | _ => cases (by decide : ¬ _ ∈ agreeing) ha

/-- Where no rule applies, the policy does not apply. -/
theorem fallback_eq (ha : a ∈ agreeing) (parameters : List Parameter) :
    (a.algorithm n info parameters .v3_0).fallback = .notApplicable := by
  cases a with
  | denyOverrides => exact fallback_extendedOverridesFrom {} _
  | permitOverrides => exact fallback_extendedOverridesFrom {} _
  | firstApplicable => exact fallback_firstApplicableOf _ _
  | _ => cases (by decide : ¬ _ ∈ agreeing) ha

end StandardAlgorithm

end PolicyDecision
