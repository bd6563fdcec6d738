import PolicyDecision.Proofs.Combining.Registry
import PolicyDecision.Proofs.Correspondence.Node

/-! Combining algorithms with the two effects exchanged. What an algorithm decides about exchanged
answers, its opposite decides about the answers themselves, and both ask the same questions. -/

namespace PolicyDecision

@[simp] lemma Effect.opposite_opposite (e : Effect) : e.opposite.opposite = e := by cases e <;> rfl

lemma Effect.opposite_injective : Function.Injective Effect.opposite :=
  Function.LeftInverse.injective Effect.opposite_opposite

lemma Decision.turned_opposite (d : Decision) : d.turned Effect.opposite = d.opposite := by
  cases d <;> rfl

namespace Combining

variable {n : ℕ} {dominant : Effect}

@[simp] lemma oriented_opposite (d : Decision) :
    oriented dominant.opposite (d.turned Effect.opposite) = oriented dominant d := by
  cases dominant <;> cases d <;> rfl

@[simp] lemma orientedEffect_opposite (effect : Option Effect) :
    orientedEffect dominant.opposite (effect.map Effect.opposite) =
      orientedEffect dominant effect := by
  cases dominant <;> rcases effect with _ | _ | _ <;> rfl

/-- A decision that is turned back from the exchanged view. -/
lemma turned_oriented (d : Decision) :
    (oriented dominant d).turned Effect.opposite = oriented dominant.opposite d := by
  cases dominant <;> cases d <;> rfl

lemma turned_extendedOverridesFrom (t : Tally) (is : List (Fin n)) :
    (extendedOverridesFrom dominant t is).Turned Effect.opposite
      (extendedOverridesFrom dominant.opposite t is) := by
  induction is generalizing t with
  | nil =>
    rw [extendedOverridesFrom, extendedOverridesFrom, ← turned_oriented]
    exact .decide _
  | cons i is ih =>
    refine .evaluate i fun d => ?_
    rw [oriented_opposite]
    split
    · rw [← Decision.turned_decision]
      exact .decide _
    · exact ih _

lemma turned_legacyOverridesFrom (effect : Fin n → Option Effect) (t : LegacyTally)
    (is : List (Fin n)) :
    (legacyOverridesFrom dominant effect t is).Turned Effect.opposite
      (legacyOverridesFrom dominant.opposite (fun i => (effect i).map Effect.opposite) t is) := by
  induction is generalizing t with
  | nil =>
    rw [legacyOverridesFrom, legacyOverridesFrom, ← turned_oriented]
    exact .decide _
  | cons i is ih =>
    refine .evaluate i fun d => ?_
    rw [oriented_opposite, orientedEffect_opposite]
    split
    · rw [← Decision.turned_decision]
      exact .decide _
    · exact ih _

lemma turned_defaultOf (default : Effect) (is : List (Fin n)) :
    (defaultOf default is).Turned Effect.opposite (defaultOf default.opposite is) := by
  induction is with
  | nil =>
    rw [defaultOf, defaultOf, ← Decision.turned_decision]
    exact .decide _
  | cons i is ih =>
    refine .evaluate i fun d => ?_
    have hother : d.turned Effect.opposite = default.opposite.opposite.decision ↔
        d = default.opposite.decision := by
      cases default <;> cases d <;> decide
    simp only [hother]
    split
    · exact .decide d
    · exact ih

lemma turned_firstApplicableOf (turn : Effect → Effect) (version : Version)
    (is : List (Fin n)) :
    (firstApplicableOf version is).Turned turn (firstApplicableOf version is) := by
  induction is with
  | nil => exact .decide .notApplicable
  | cons i is ih =>
    refine .evaluate i fun d => ?_
    simp only [Decision.turned_eq_notApplicable]
    split
    · exact ih
    · rw [Version.shown_turned]
      exact .decide _

lemma turned_onlyOneApplicableOf (turn : Effect → Effect) (version : Version)
    (matched : Option (Fin n)) (is : List (Fin n)) :
    (onlyOneApplicableOf version matched is).Turned turn
      (onlyOneApplicableOf version matched is) := by
  have hfailed : (Plan.decide (version.indeterminate none) : Plan n).Turned turn
      (.decide (version.indeterminate none)) := by
    have h : (Plan.decide (version.indeterminate none) : Plan n).Turned turn
        (.decide ((version.indeterminate none).turned turn)) := .decide _
    rwa [← Version.indeterminate_turned] at h
  induction is generalizing matched with
  | nil =>
    cases matched with
    | none => exact .decide .notApplicable
    | some i =>
      refine .evaluate i fun d => ?_
      rw [Version.shown_turned]
      exact .decide _
  | cons i is ih =>
    refine .probe i fun m => ?_
    cases m with
    | isMatch =>
      change (if matched.isNone then _ else _ : Plan n).Turned turn
        (if matched.isNone then _ else _)
      split
      · exact ih (some i)
      · exact hfailed
    | noMatch => exact ih matched
    | indeterminate e => exact hfailed

lemma turned_overrides {info info' : Fin n → ChildInfo}
    (h : ∀ i, (info' i).hint = (info i).hint.map Effect.opposite)
    (parameters parameters' : List Parameter) (version : Version) :
    (overrides dominant n info parameters version).Turned Effect.opposite
      (overrides dominant.opposite n info' parameters' version) := by
  unfold overrides
  split
  · exact turned_extendedOverridesFrom {} _
  · have hhint : (fun i => (info' i).hint) = fun i => (info i).hint.map Effect.opposite := funext h
    rw [hhint]
    exact turned_legacyOverridesFrom _ {} _

end Combining

namespace StandardAlgorithm

/-- The algorithm with the two effects exchanged. -/
def opposite : StandardAlgorithm → StandardAlgorithm
  | denyOverrides => permitOverrides
  | permitOverrides => denyOverrides
  | denyUnlessPermit => permitUnlessDeny
  | permitUnlessDeny => denyUnlessPermit
  | a => a

/-- The children declare opposite effects, if they declare any. -/
theorem turned_algorithm (a : StandardAlgorithm) {n : ℕ} {info info' : Fin n → ChildInfo}
    (h : ∀ i, (info' i).hint = (info i).hint.map Effect.opposite)
    (parameters parameters' : List Parameter) (version : Version) :
    (a.algorithm n info parameters version).Turned Effect.opposite
      (a.opposite.algorithm n info' parameters' version) := by
  cases a with
  | denyOverrides => exact Combining.turned_overrides h parameters parameters' version
  | permitOverrides => exact Combining.turned_overrides h parameters parameters' version
  | firstApplicable => exact Combining.turned_firstApplicableOf _ _ _
  | onlyOneApplicable => exact Combining.turned_onlyOneApplicableOf _ _ _ _
  | denyUnlessPermit => exact Combining.turned_defaultOf _ _
  | permitUnlessDeny => exact Combining.turned_defaultOf _ _

/-- The names of algorithms in which the effects have parts, each with that in which they are
exchanged. -/
def oppositeName : String → String
  | "deny-overrides" => "permit-overrides"
  | "permit-overrides" => "deny-overrides"
  | "ordered-deny-overrides" => "ordered-permit-overrides"
  | "ordered-permit-overrides" => "ordered-deny-overrides"
  | "deny-unless-permit" => "permit-unless-deny"
  | "permit-unless-deny" => "deny-unless-permit"
  | name => name

/-- The URIs of the standard algorithms, each with that of the opposite algorithm in the same
version, for rules or for policies as before. -/
def opposites : List (String × String) :=
  shared.flatMap fun (version, name, _) =>
    [(ruleUri version name, ruleUri version (oppositeName name)),
      (policyUri version name, policyUri version (oppositeName name))]

def oppositeUri (uri : String) : String := (opposites.lookup uri).getD uri

end StandardAlgorithm

/-! The standard registry with the two effects exchanged: under the opposite URI stands the opposite
algorithm. -/

namespace StandardAlgorithm

lemma keys_library : library.map Prod.fst =
    policyUri "1.0" "only-one-applicable" :: opposites.map Prod.fst := by
  simp [library, opposites, List.map_flatMap]

lemma nodup_opposites : (opposites.map Prod.fst).Nodup := by
  have h := nodup_library
  rw [keys_library] at h
  exact (List.nodup_cons.mp h).2

/-- Outside the standard library nothing is exchanged. -/
lemma oppositeUri_of_not_mem {uri : String} (h : uri ∉ opposites.map Prod.fst) :
    oppositeUri uri = uri := by
  rw [oppositeUri, lookup_of_not_mem h, Option.getD_none]

lemma shared_opposite : ∀ e ∈ shared, (e.1, oppositeName e.2.1, e.2.2.opposite) ∈ shared := by
  decide +kernel

section Shared

variable {version name : String} {a : StandardAlgorithm}

lemma oppositeUri_ruleUri (h : (version, name, a) ∈ shared) :
    oppositeUri (ruleUri version name) = ruleUri version (oppositeName name) := by
  have hmem : (ruleUri version name, ruleUri version (oppositeName name)) ∈ opposites :=
    List.mem_flatMap.mpr ⟨_, h, List.mem_cons_self⟩
  rw [oppositeUri, lookup_of_mem nodup_opposites hmem, Option.getD_some]

lemma oppositeUri_policyUri (h : (version, name, a) ∈ shared) :
    oppositeUri (policyUri version name) = policyUri version (oppositeName name) := by
  have hmem : (policyUri version name, policyUri version (oppositeName name)) ∈ opposites :=
    List.mem_flatMap.mpr ⟨_, h, List.mem_cons_of_mem _ List.mem_cons_self⟩
  rw [oppositeUri, lookup_of_mem nodup_opposites hmem, Option.getD_some]

end Shared

lemma exists_shared {uri : String} (h : uri ∈ opposites.map Prod.fst) :
    ∃ version name a, (version, name, a) ∈ shared ∧
      (uri = ruleUri version name ∨ uri = policyUri version name) := by
  obtain ⟨pair, hpair, rfl⟩ := List.mem_map.mp h
  obtain ⟨⟨version, name, a⟩, hshared, hpair⟩ := List.mem_flatMap.mp hpair
  refine ⟨version, name, a, hshared, ?_⟩
  simp only [List.mem_cons, List.not_mem_nil, or_false] at hpair
  rcases hpair with rfl | rfl
  · exact Or.inl rfl
  · exact Or.inr rfl

/-- The opposite algorithm stands under the opposite URI. -/
theorem lookup_oppositeUri (uri : String) :
    library.lookup (oppositeUri uri) = (library.lookup uri).map opposite := by
  by_cases h : uri ∈ opposites.map Prod.fst
  · obtain ⟨version, name, a, hshared, rfl | rfl⟩ := exists_shared h
    · rw [oppositeUri_ruleUri hshared, lookup_ruleUri hshared,
        lookup_ruleUri (shared_opposite _ hshared), Option.map_some]
    · rw [oppositeUri_policyUri hshared, lookup_policyUri hshared,
        lookup_policyUri (shared_opposite _ hshared), Option.map_some]
  · rw [oppositeUri_of_not_mem h]
    by_cases huri : uri = policyUri "1.0" "only-one-applicable"
    · have honly : library.lookup uri = some onlyOneApplicable :=
        lookup_of_mem nodup_library (huri ▸ List.mem_cons_self)
      rw [honly]
      rfl
    · have hnone : library.lookup uri = none := by
        refine lookup_of_not_mem ?_
        rw [keys_library]
        exact List.not_mem_cons_of_ne_of_not_mem huri h
      rw [hnone, Option.map_none]

end StandardAlgorithm

open StandardAlgorithm

namespace Correspondence

/-- Whatever stands under a URI goes with what stands under the opposite one. -/
theorem algorithmAlike_opposite (uri : String) (parameters parameters' : List Parameter)
    (version : Version) :
    AlgorithmAlike Effect.opposite (fun i j => j.hint = i.hint.map Effect.opposite) parameters
      parameters' version (AlgorithmRegistry.standard.require uri)
      (AlgorithmRegistry.standard.require (oppositeUri uri)) := by
  rw [AlgorithmRegistry.require_standard, AlgorithmRegistry.require_standard, lookup_oppositeUri]
  cases huri : library.lookup uri with
  | some a => exact .found fun n info info' h => a.turned_algorithm h _ _ _
  | none =>
    have hother : uri ∉ opposites.map Prod.fst := by
      intro h
      obtain ⟨version, name, a, hshared, rfl | rfl⟩ := exists_shared h
      · rw [lookup_ruleUri hshared] at huri
        cases huri
      · rw [lookup_policyUri hshared] at huri
        cases huri
    rw [oppositeUri_of_not_mem hother]
    exact .missing _

end Correspondence

end PolicyDecision
