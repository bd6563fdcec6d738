import PolicyDecision.Proofs.Combining.Registry

/-! Algorithms that are indeterminate only if a child is. -/

namespace PolicyDecision

variable {n : ℕ}

/-- The plan does not decide indeterminately unless a child does, or its target cannot be
evaluated. -/
def Plan.Inherits : Plan n → Prop
  | .decide d => d.isIndeterminate = false
  | .evaluate _ next => ∀ d, d.isIndeterminate = false → (next d).Inherits
  | .probe _ next => ∀ m, m.isIndeterminate = false → (next m).Inherits

def CombiningAlgorithm.Inherits (a : CombiningAlgorithm) : Prop :=
  ∀ n children parameters version, (a n children parameters version).Inherits

@[simp] lemma Effect.isIndeterminate_decision (e : Effect) :
    e.decision.isIndeterminate = false := by
  cases e <;> rfl

lemma Version.isIndeterminate_shown (version : Version) (d : Decision) :
    (version.shown d).isIndeterminate = d.isIndeterminate := by
  unfold shown
  cases version.isExtended <;> cases d <;> rfl

namespace Combining

section Overrides

variable {dominant : Effect} {d : Decision}

lemma isIndeterminate_oriented :
    (oriented dominant d).isIndeterminate = d.isIndeterminate := by
  cases dominant <;> cases d <;> rfl

/-- No child has failed so far. -/
structure Tally.Clean (t : Tally) : Prop where
  errorD : t.errorD = false
  errorP : t.errorP = false
  errorDP : t.errorDP = false

lemma Tally.Clean.add {t : Tally} (h : t.Clean) (hd : d.isIndeterminate = false) :
    (t.add d).Clean := by
  cases d <;> first | exact ⟨h.errorD, h.errorP, h.errorDP⟩ | cases hd

lemma Tally.Clean.decision {t : Tally} (h : t.Clean) : t.decision.isIndeterminate = false := by
  unfold Tally.decision
  rw [h.errorD, h.errorP, h.errorDP]
  cases t.permit <;> rfl

structure LegacyTally.Clean (t : LegacyTally) : Prop where
  error : t.error = false
  potentialDeny : t.potentialDeny = false

lemma LegacyTally.Clean.add {t : LegacyTally} (h : t.Clean) (effect : Option Effect)
    (hd : d.isIndeterminate = false) : (t.add effect d).Clean := by
  cases d <;> first | exact ⟨h.error, h.potentialDeny⟩ | cases hd

lemma LegacyTally.Clean.decision {t : LegacyTally} (h : t.Clean) :
    t.decision.isIndeterminate = false := by
  unfold LegacyTally.decision
  rw [h.error, h.potentialDeny]
  cases t.permit <;> rfl

lemma inherits_unless_deny {next : Plan n} (hnext : next.Inherits) :
    (if oriented dominant d = .deny then .decide dominant.decision else next : Plan n).Inherits := by
  split
  · exact dominant.isIndeterminate_decision
  · exact hnext

lemma inherits_extendedOverridesFrom {t : Tally} (ht : t.Clean) (is : List (Fin n)) :
    (extendedOverridesFrom dominant t is).Inherits := by
  induction is generalizing t with
  | nil => exact isIndeterminate_oriented.trans ht.decision
  | cons i is ih =>
    intro d hd
    exact inherits_unless_deny (ih (ht.add (isIndeterminate_oriented.trans hd)))

lemma inherits_legacyOverridesFrom {effect : Fin n → Option Effect} {t : LegacyTally}
    (ht : t.Clean) (is : List (Fin n)) :
    (legacyOverridesFrom dominant effect t is).Inherits := by
  induction is generalizing t with
  | nil => exact isIndeterminate_oriented.trans ht.decision
  | cons i is ih =>
    intro d hd
    exact inherits_unless_deny (ih (ht.add _ (isIndeterminate_oriented.trans hd)))

lemma inherits_overrides (dominant : Effect) : (overrides dominant).Inherits := by
  intro n children parameters version
  unfold overrides
  split
  · exact inherits_extendedOverridesFrom ⟨rfl, rfl, rfl⟩ _
  · exact inherits_legacyOverridesFrom ⟨rfl, rfl⟩ _

end Overrides

lemma inherits_firstApplicable : firstApplicable.Inherits := by
  intro n children parameters version
  change (firstApplicableOf version (List.finRange n)).Inherits
  induction List.finRange n with
  | nil => exact rfl
  | cons i is ih =>
    intro d hd
    change (if d = .notApplicable then _ else _ : Plan n).Inherits
    split
    · exact ih
    · exact (version.isIndeterminate_shown d).trans hd

lemma inherits_byDefault (default : Effect) : (byDefault default).Inherits := by
  intro n children parameters version
  change (defaultOf default (List.finRange n)).Inherits
  induction List.finRange n with
  | nil => exact default.isIndeterminate_decision
  | cons i is ih =>
    intro d hd
    change (if d = default.opposite.decision then _ else _ : Plan n).Inherits
    split
    · exact hd
    · exact ih

end Combining

namespace StandardAlgorithm

/-- The other one fails of itself when two children apply. -/
theorem inherits {a : StandardAlgorithm} (ha : a ≠ onlyOneApplicable) : a.algorithm.Inherits := by
  cases a with
  | denyOverrides => exact Combining.inherits_overrides .deny
  | permitOverrides => exact Combining.inherits_overrides .permit
  | firstApplicable => exact Combining.inherits_firstApplicable
  | onlyOneApplicable => exact absurd rfl ha
  | denyUnlessPermit => exact Combining.inherits_byDefault .deny
  | permitUnlessDeny => exact Combining.inherits_byDefault .permit

lemma uri_of_onlyOneApplicable : ∀ entry ∈ library, entry.2 = onlyOneApplicable →
    entry.1 = policyUri "1.0" "only-one-applicable" := by
  decide +kernel

end StandardAlgorithm

theorem AlgorithmRegistry.inherits_of_require {uri : String} {a : CombiningAlgorithm}
    (h : standard.require uri = .ok a)
    (huri : uri ≠ StandardAlgorithm.policyUri "1.0" "only-one-applicable") : a.Inherits := by
  rw [require_standard] at h
  split at h
  · rename_i standard hlookup
    cases h
    obtain ⟨before, after, hlibrary, -⟩ := List.lookup_eq_some_iff.mp hlookup
    refine standard.inherits fun honly => huri ?_
    refine StandardAlgorithm.uri_of_onlyOneApplicable (uri, standard) ?_ honly
    rw [hlibrary]
    exact List.mem_append_right _ List.mem_cons_self
  · cases h

end PolicyDecision
