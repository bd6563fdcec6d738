import PolicyDecision.Proofs.Attributes.Shuffled
import PolicyDecision.Proofs.Function.Registry
import PolicyDecision.Proofs.Target.Verdict
import Mathlib.Data.List.Forall2

/-! Targets whose parts stand in another order, at any depth. With the same values of attributes,
again in any order, their verdicts are the same. -/

namespace PolicyDecision

section Rearranges

variable {α β : Type} {R : α → β → Prop} {l : List α} {l' : List β}

/-- The members of one list are those of the other up to a relation, in any order. -/
def Rearranges (R : α → β → Prop) : List α → List β → Prop :=
  Relation.Comp (List.Forall₂ R) List.Perm

lemma rearranges_of_perm {l l' : List α} (h : l.Perm l') : Rearranges Eq l l' :=
  ⟨l, List.forall₂_refl l, h⟩

lemma exists_related_of_mem (h : List.Forall₂ R l l') {a : α} (ha : a ∈ l) : ∃ b ∈ l', R a b := by
  induction h with
  | nil => cases ha
  | cons hab _ ih =>
    rcases List.mem_cons.mp ha with rfl | ha
    · exact ⟨_, List.mem_cons_self, hab⟩
    · obtain ⟨b, hb, hab⟩ := ih ha
      exact ⟨b, List.mem_cons_of_mem _ hb, hab⟩

lemma Rearranges.exists_right (h : Rearranges R l l') {a : α} (ha : a ∈ l) : ∃ b ∈ l', R a b := by
  obtain ⟨mid, hmid, hperm⟩ := h
  obtain ⟨b, hb, hab⟩ := exists_related_of_mem hmid ha
  exact ⟨b, hperm.mem_iff.mp hb, hab⟩

lemma Rearranges.exists_left (h : Rearranges R l l') {b : β} (hb : b ∈ l') : ∃ a ∈ l, R a b := by
  obtain ⟨mid, hmid, hperm⟩ := h
  have hback : List.Forall₂ (flip R) mid l := List.Forall₂.flip hmid
  exact exists_related_of_mem hback (hperm.mem_iff.mpr hb)

lemma Rearranges.eq_nil_iff (h : Rearranges R l l') : l = [] ↔ l' = [] := by
  obtain ⟨mid, hmid, hperm⟩ := h
  rw [← List.length_eq_zero_iff, ← List.length_eq_zero_iff, hmid.length_eq, hperm.length_eq]

end Rearranges

/-- The comparisons stand in another order. -/
def AllOf.Rearranged (a a' : AllOf) : Prop := a.matchList.Perm a'.matchList

/-- The alternatives stand in another order, and so do their comparisons. -/
def AnyOf.Rearranged (a a' : AnyOf) : Prop :=
  Rearranges AllOf.Rearranged a.alternatives a'.alternatives

def Target.Rearranged (t t' : Target) : Prop := Rearranges AnyOf.Rearranged t.anyOfs t'.anyOfs

lemma Target.mem_matchList_of_rearranged {t t' : Target} (h : t.Rearranged t') {m : Match}
    (hm : m ∈ t'.matchList) : m ∈ t.matchList := by
  obtain ⟨a', ha', b', hb', hm⟩ := mem_matchList.mp hm
  obtain ⟨a, ha, halternatives⟩ := h.exists_left ha'
  obtain ⟨b, hb, hmatches⟩ := halternatives.exists_left hb'
  exact mem_matchList.mpr ⟨a, ha, b, hb, hmatches.mem_iff.mpr hm⟩

open Verdict Stateful

/-- The verdicts of two results are equal, provided that both are there. -/
def SameVerdict (x y : Except ConfigurationError MatchResult) : Prop :=
  ∀ r s, x = .ok r → y = .ok s → r.verdict = s.verdict

section Parts

variable {α β : Type} {R : α → β → Prop} {first second third v w : Verdict}
  {look : α → Except ConfigurationError MatchResult}
  {look' : β → Except ConfigurationError MatchResult} {parts : List α} {parts' : List β}

lemma SameVerdict.symm {x y : Except ConfigurationError MatchResult} (h : SameVerdict x y) :
    SameVerdict y x :=
  fun r s hr hs => (h s r hs hr).symm

lemma onParts_subset (h : ∀ a ∈ parts, ∃ b ∈ parts', SameVerdict (look a) (look' b))
    (hcomplete : ∀ b ∈ parts', ∃ s, look' b = .ok s) :
    onParts look parts ⊆ onParts look' parts' := by
  intro u hu
  obtain ⟨a, ha, hu⟩ := List.mem_filterMap.mp hu
  obtain ⟨b, hb, hab⟩ := h a ha
  obtain ⟨s, hs⟩ := hcomplete b hb
  refine List.mem_filterMap.mpr ⟨b, hb, ?_⟩
  cases hr : look a with
  | error e =>
    rw [hr] at hu
    cases hu
  | ok r =>
    rw [hr] at hu
    cases hu
    rw [hs]
    exact congrArg some (hab r s hr hs).symm

/-- An early end on one side only would leave out a part that decides. -/
lemma Weighs.eq_first (hdistinct : [first, second, third].Nodup)
    (h : ∀ a ∈ parts, ∃ b ∈ parts', SameVerdict (look a) (look' b))
    (hv : Weighs first second third third look parts v)
    (hw : Weighs first second third third look' parts' w) (hfirst : v = first) : w = first := by
  by_contra hne
  have hsub := onParts_subset h (hw.complete hne)
  obtain ⟨hsecond, hthird⟩ : second ≠ first ∧ third ≠ first := by grind
  have hmem : first ∈ onParts look parts :=
    (prevailing_eq_first_iff hsecond hthird).mp ((hv.verdict_eq hdistinct).symm.trans hfirst)
  exact hne ((hw.verdict_eq hdistinct).trans
    ((prevailing_eq_first_iff hsecond hthird).mpr (hsub hmem)))

/-- Parts with the same verdicts have one verdict together. -/
lemma Weighs.eq_of_rearranges (hdistinct : [first, second, third].Nodup)
    (hparts : Rearranges R parts parts')
    (hsame : ∀ a ∈ parts, ∀ b ∈ parts', R a b → SameVerdict (look a) (look' b))
    (hv : Weighs first second third third look parts v)
    (hw : Weighs first second third third look' parts' w) : v = w := by
  have hright : ∀ a ∈ parts, ∃ b ∈ parts', SameVerdict (look a) (look' b) := by
    intro a ha
    obtain ⟨b, hb, hab⟩ := hparts.exists_right ha
    exact ⟨b, hb, hsame a ha b hb hab⟩
  have hleft : ∀ b ∈ parts', ∃ a ∈ parts, SameVerdict (look' b) (look a) := by
    intro b hb
    obtain ⟨a, ha, hab⟩ := hparts.exists_left hb
    exact ⟨a, ha, (hsame a ha b hb hab).symm⟩
  by_cases hfirst : v = first
  · exact hfirst.trans (hv.eq_first hdistinct hright hw hfirst).symm
  · have hfirst' : w ≠ first := fun h => hfirst (hw.eq_first hdistinct hleft hv h)
    have hsub := onParts_subset hright (hw.complete hfirst')
    have hsub' := onParts_subset hleft (hv.complete hfirst)
    rw [hv.verdict_eq hdistinct, hw.verdict_eq hdistinct]
    exact prevailing_congr fun u => ⟨fun h => hsub h, fun h => hsub' h⟩

end Parts

namespace Environment

variable {env env' : Environment}

namespace Shuffles

variable (h : env.Shuffles env')
include h

lemma comparing_eq (f : FunctionRef) (literal : Except Fault Value) (a : AttributeRef) :
    env'.comparing f literal (env'.attributes a) = env.comparing f literal (env.attributes a) := by
  have hattributes := h.attributes a
  generalize env.attributes a = x at hattributes ⊢
  generalize env'.attributes a = y at hattributes ⊢
  cases literal with
  | error e => rfl
  | ok literal =>
    cases hattributes with
    | error he => rfl
    | ok hvalues =>
      simp only [comparing, h.call]
      exact prevailing_congr fun v => (hvalues.map _).mem_iff.symm

lemma sameVerdict_matchOne (m : Match) : SameVerdict (env.matchOne m) (env'.matchOne m) := by
  intro r s hr hs
  obtain ⟨f, hf, hr⟩ := verdict_matchOne hr
  obtain ⟨f', hf', hs⟩ := verdict_matchOne hs
  rw [h.functions, hf] at hf'
  cases hf'
  rw [hr, hs, h.comparing_eq]

lemma sameVerdict_matchAll {a a' : AllOf} (ha : a.Rearranged a') :
    SameVerdict (env.matchAll none a.matchList) (env'.matchAll none a'.matchList) := by
  intro r s hr hs
  refine (weighs_matchAll hr).eq_of_rearranges (by decide) (rearranges_of_perm ha) ?_
    (weighs_matchAll hs)
  rintro m - _ - rfl
  exact h.sameVerdict_matchOne m

lemma sameVerdict_matchAnyOf {a a' : AnyOf} (ha : a.Rearranged a') :
    SameVerdict (env.matchAnyOf a) (env'.matchAnyOf a') := by
  intro r s hr hs
  by_cases hnil : a.alternatives = []
  · rw [matchAnyOf_of_nil hnil] at hr
    rw [matchAnyOf_of_nil (ha.eq_nil_iff.mp hnil)] at hs
    cases hr
    cases hs
    rfl
  · rw [matchAnyOf_of_ne_nil hnil] at hr
    rw [matchAnyOf_of_ne_nil fun hnil' => hnil (ha.eq_nil_iff.mpr hnil')] at hs
    refine (weighs_matchAlternatives hr).eq_of_rearranges (by decide) ha ?_
      (weighs_matchAlternatives hs)
    exact fun b _ b' _ hb => h.sameVerdict_matchAll hb

lemma sameVerdict_matchTarget {t t' : Target} (ht : t.Rearranged t') :
    SameVerdict (env.matchTarget (some t)) (env'.matchTarget (some t')) := by
  intro r s hr hs
  refine (weighs_matchAnyOfs (by decide) hr).eq_of_rearranges (by decide) ht ?_
    (weighs_matchAnyOfs (by decide) hs)
  exact fun a _ a' _ ha => h.sameVerdict_matchAnyOf ha

lemma exists_matchOne_of_shuffles {m : Match} (hm : ∃ r, env.matchOne m = .ok r) :
    ∃ r, env'.matchOne m = .ok r := by
  obtain ⟨r, hr⟩ := hm
  obtain ⟨f, hf, hr⟩ := except_bind_eq_ok.mp hr
  have hattributes := h.attributes m.attributes
  rw [matchOne, h.functions, hf]
  change ∃ r, orIndeterminate m.literal.resolve _ = .ok r
  generalize m.literal.resolve = literal at hr ⊢
  rcases literal with (e | e) | literal
  · exact ⟨_, rfl⟩
  · cases hr
  · change orIndeterminate (env.attributes m.attributes) _ = .ok r at hr
    change ∃ r, orIndeterminate (env'.attributes m.attributes) _ = .ok r
    generalize env.attributes m.attributes = x at hattributes hr
    generalize env'.attributes m.attributes = y at hattributes ⊢
    cases hattributes with
    | ok hvalues => exact ⟨_, rfl⟩
    | error he =>
      cases he with
      | evaluation e e' => exact ⟨_, rfl⟩
      | configuration e => cases hr

lemma exists_matchTarget_of_shuffles {t t' : Target} (ht : t.Rearranged t')
    (hmatches : ∀ m ∈ t.matchList, ∃ r, env.matchOne m = .ok r) :
    ∃ r, env'.matchTarget (some t') = .ok r := by
  refine exists_matchTarget fun m hm => h.exists_matchOne_of_shuffles (hmatches m ?_)
  rw [Option.toList_some, List.flatMap_singleton] at hm
  exact Target.mem_matchList_of_rearranged ht hm

end Shuffles

/-- A target has a verdict if its comparisons have one. It is the one that prevails among the parts
of the target, and so down to the comparisons. The order of the parts at any depth, and that of the
values of an attribute, make no difference to it. -/
theorem matchTarget_three_valued (env : Environment) :
    (∀ target : Option Target,
      (∀ m ∈ target.toList.flatMap Target.matchList, ∃ r, env.matchOne m = .ok r) →
        ∃ r, env.matchTarget target = .ok r) ∧
    (∀ target r, env.matchTarget target = .ok r →
      r.verdict = prevailing .indeterminate .noMatch .isMatch
        (onParts env.matchAnyOf (target.toList.flatMap Target.anyOfs))) ∧
    (∀ anyOf r, env.matchAnyOf anyOf = .ok r →
      r.verdict = if anyOf.alternatives = [] then .isMatch else
        prevailing .isMatch .indeterminate .noMatch
          (onParts (fun allOf => env.matchAll none allOf.matchList) anyOf.alternatives)) ∧
    (∀ ms r, env.matchAll none ms = .ok r →
      r.verdict = prevailing .noMatch .indeterminate .isMatch (onParts env.matchOne ms)) ∧
    (∀ m r, env.matchOne m = .ok r → ∃ f, env.functions.require m.function = .ok f ∧
      r.verdict = env.comparing f m.literal.resolve (env.attributes m.attributes)) ∧
    ∀ env' t t', env.Shuffles env' → t.Rearranged t' →
      SameVerdict (env.matchTarget (some t)) (env'.matchTarget (some t')) ∧
      ((∀ m ∈ t.matchList, ∃ r, env.matchOne m = .ok r) →
        ∃ r, env'.matchTarget (some t') = .ok r) := by
  exact ⟨fun target => exists_matchTarget, fun target r => verdict_matchTarget,
    fun anyOf r => verdict_matchAnyOf, fun ms r => verdict_matchAll, fun m r => verdict_matchOne,
    fun env' t t' h ht => ⟨h.sameVerdict_matchTarget ht, h.exists_matchTarget_of_shuffles ht⟩⟩

/-- The profession of a subject. -/
def profession : Designator where
  category := "urn:oasis:names:tc:xacml:1.0:subject-category:access-subject"
  attributeId := "profession"
  dataType := DataType.string.uri

/-- Nothing is known of the subject but the professions. -/
def practitioner (professions : List String) : Environment where
  version := .v3_0
  source := Request.source {
    version := .v3_0
    blocks := [{
      category := profession.category
      attributes := [{
        attributeId := profession.attributeId
        dataType := profession.dataType
        values := professions }] }] } none
  functions := .standard
  algorithms := .standard
  repository := ⟨fun _ _ => none, fun _ _ => none⟩
  maxReferenceDepth := 1
  collectPolicies := false
  clock := none

lemma shuffles_practitioner {professions professions' : List String}
    (h : professions.Perm professions') :
    (practitioner professions).Shuffles (practitioner professions') := by
  refine shuffles_of_pathless rfl rfl (Request.pathless_source _) (Request.pathless_source _) rfl ?_
  intro query
  refine .ok ?_
  simp only [Request.valuesFor, Request.blocksOf, List.filter_cons,
    List.filter_nil, Attribute.answers]
  split
  · simp only [List.flatMap_cons, List.flatMap_nil, List.append_nil, List.filter_cons,
      List.filter_nil]
    split
    · simpa using h
    · rfl
  · rfl

def concatenate : FunctionRef :=
  ⟨StandardFunction.namespace2 ++ "string-concatenate", .standard .concatenate⟩

/-- A comparison that never comes to a boolean. -/
def misuse (type : DataType) (text : String) : Match where
  function := concatenate.uri
  literal := ⟨type.uri, text⟩
  attributes := .designator profession

def conjunction (ms : List Match) : Target := ⟨[⟨[⟨ms⟩]⟩]⟩

lemma matchOne_misuse (professions : List String) (type : DataType) (text : String) :
    (practitioner professions).matchOne (misuse type text) =
      orIndeterminate (misuse type text).literal.resolve fun literal =>
        orIndeterminate ((practitioner professions).designate profession) fun bag =>
          .ok ((practitioner professions).matchValues concatenate literal none bag.values) := by
  have hrequire : (practitioner professions).functions.require (misuse type text).function =
      .ok concatenate :=
    FunctionRegistry.require_standard (List.mem_append_right _ List.mem_cons_self)
  rw [matchOne, hrequire]
  rfl

/-- Two errors in another order: another one is reported, but the verdict is the same. -/
theorem matchTarget_misused :
    ∃ r r', (practitioner ["nurse", "surgeon"]).matchTarget
        (some (conjunction [misuse .integer "1", misuse .string "Dr. "])) = .ok r ∧
      (practitioner ["surgeon", "nurse"]).matchTarget
        (some (conjunction [misuse .string "Dr. ", misuse .integer "1"])) = .ok r' ∧
      r ≠ r' ∧ r.verdict = r'.verdict := by
  have htarget : (practitioner ["nurse", "surgeon"]).matchTarget
      (some (conjunction [misuse .integer "1", misuse .string "Dr. "])) =
        .ok (.indeterminate (.raisedBy concatenate.uri
          (.argument 0 (.value .string) (.value .integer)))) := by
    simp only [conjunction, matchTarget, matchAnyOfs, matchAnyOf, matchAlternatives, matchAll,
      matchOne_misuse]
    rfl
  have htarget' : (practitioner ["surgeon", "nurse"]).matchTarget
      (some (conjunction [misuse .string "Dr. ", misuse .integer "1"])) =
        .ok (.indeterminate (.matchNotBoolean concatenate.uri .value)) := by
    simp only [conjunction, matchTarget, matchAnyOfs, matchAnyOf, matchAlternatives, matchAll,
      matchOne_misuse]
    rfl
  refine ⟨_, _, htarget, htarget', by simp, ?_⟩
  obtain ⟨-, -, -, -, -, hrearranged⟩ :=
    matchTarget_three_valued (practitioner ["nurse", "surgeon"])
  refine (hrearranged _ _ _ (shuffles_practitioner (.swap _ _ _)) ?_).1 _ _ htarget htarget'
  have hmatches : AllOf.Rearranged ⟨[misuse .integer "1", misuse .string "Dr. "]⟩
      ⟨[misuse .string "Dr. ", misuse .integer "1"]⟩ := .swap _ _ _
  exact ⟨_, .cons ⟨_, .cons hmatches .nil, .refl _⟩ .nil, .refl _⟩

end Environment

end PolicyDecision
