import PolicyDecision.Proofs.Correspondence.Recursion
import PolicyDecision.Proofs.Visit.Vocabulary
import Mathlib.Data.List.FinRange

/-! The algorithm that expects at most one child to apply selects it by the targets alone. -/

namespace PolicyDecision

open Stateful NodeEvaluation

/-- The place of the child that was evaluated, with the state before and the answer. -/
def Event.body? {n : ℕ} : Event n → Option (ℕ × Progress × Except ConfigurationError Decision)
  | evaluated i start answer => some (i, start, answer)
  | probed _ _ _ => none

/-- The target was looked at and matches. -/
def matched : Except ConfigurationError MatchResult → Bool
  | .ok .isMatch => true
  | _ => false

/-- The target was looked at and cannot be evaluated. -/
def undecided : Except ConfigurationError MatchResult → Bool
  | .ok (.indeterminate _) => true
  | _ => false

namespace Combining

variable {n : ℕ} {version : Version} {evaluate : Fin n → NodeEvaluation Decision}
  {probe : Fin n → NodeEvaluation MatchResult} {s s' : Progress} {d : Decision}

/-- What comes of the children with the given places, whose targets match, and of the others, one of
which may have a target that cannot be evaluated. -/
structure Selection (version : Version) (evaluate : Fin n → NodeEvaluation Decision)
    (s s' : Progress) (candidates : List (Fin n)) (failed : Bool) (d : Decision)
    (bodies : List (ℕ × Progress × Except ConfigurationError Decision)) : Prop where
  ambiguous : failed = true ∨ 2 ≤ candidates.length →
    d = version.indeterminate none ∧ bodies = []
  single : ∀ i, failed = false → candidates = [i] → ∃ decision,
    evaluate i s = (.ok decision, s') ∧ d = version.shown decision ∧
      bodies = [(i.val, s, .ok decision)]
  nothing : failed = false → candidates = [] → d = .notApplicable ∧ bodies = []

lemma Selection.of_ambiguous {candidates : List (Fin n)} {failed : Bool}
    (h : failed = true ∨ 2 ≤ candidates.length) :
    Selection version evaluate s s' candidates failed (version.indeterminate none) [] := by
  refine ⟨fun _ => ⟨rfl, rfl⟩, ?_, ?_⟩
  · rintro i rfl rfl
    exact absurd h (by simp)
  · rintro rfl rfl
    exact absurd h (by simp)

/-- A look that changes nothing is on record only where it failed. -/
lemma look_of_recording {x : NodeEvaluation MatchResult} {m : MatchResult} (hx : (x s).2 = s)
    (hrun : recording x s = (.ok m, s')) :
    (x s).1 = .ok m ∧ ((∀ e, m ≠ .indeterminate e) → s' = s) := by
  rw [recording_apply] at hrun
  rcases hlook : x s with ⟨c | _ | _ | e, s₁⟩ <;> rw [hlook] at hx hrun <;> cases hrun
  · exact ⟨rfl, fun _ => hx⟩
  · exact ⟨rfl, fun _ => hx⟩
  · exact ⟨rfl, fun h => absurd rfl (h e)⟩

/-- Where a look at a target changes nothing, each target is judged in the same state. -/
lemma selection_onlyOneApplicableOf (hprobe : ∀ i, (probe i s).2 = s) (first : Option (Fin n))
    (is : List (Fin n)) (hrun : (onlyOneApplicableOf version first is).run evaluate
      (fun i => recording (probe i)) s = (.ok d, s')) :
    Selection version evaluate s s' (first.toList ++ is.filter fun i => matched (probe i s).1)
      (is.any fun i => undecided (probe i s).1) d
      (((onlyOneApplicableOf version first is).transcript evaluate
        (fun i => recording (probe i)) s).filterMap Event.body?) := by
  induction is generalizing first with
  | nil =>
    cases first with
    | none =>
      cases hrun
      exact ⟨by simp, by simp, fun _ _ => ⟨rfl, rfl⟩⟩
    | some i =>
      obtain ⟨decision, s₁, hi, hd⟩ := bind_eq_ok.mp hrun
      cases hd
      refine ⟨by simp, ?_, by simp⟩
      rintro j - hj
      obtain rfl : i = j := by simpa using hj
      refine ⟨decision, hi, rfl, ?_⟩
      rw [onlyOneApplicableOf, Plan.transcript_evaluate hi]
      rfl
  | cons i is ih =>
    obtain ⟨m, s₁, hi, hrest⟩ := bind_eq_ok.mp hrun
    obtain ⟨hlook, hsame⟩ := look_of_recording (hprobe i) hi
    rw [onlyOneApplicableOf, Plan.transcript_probe hi, List.filterMap_cons_none (by rfl),
      List.filter_cons, List.any_cons, hlook]
    cases m with
    | noMatch =>
      obtain rfl := hsame nofun
      exact ih first hrest
    | isMatch =>
      obtain rfl := hsame nofun
      -- The first match is the candidate. A second one ends the look at the rest.
      cases first with
      | none => exact ih (some i) hrest
      | some j =>
        cases hrest
        exact .of_ambiguous (.inr (by simp [matched]))
    | indeterminate e =>
      cases hrest
      exact .of_ambiguous (.inl rfl)

/-- Once a target is found to match, or cannot be evaluated, a child applies. -/
lemma applies_onlyOneApplicableOf (hprobe : ∀ i, (probe i s).2 = s) (first : Option (Fin n))
    (is : List (Fin n)) (hrun : (onlyOneApplicableOf version first is).run evaluate
      (fun i => recording (probe i)) s = (.ok d, s'))
    (happlies : ∃ i ∈ is, (probe i s).1 ≠ .ok .noMatch) :
    ((onlyOneApplicableOf version first is).transcript evaluate
      (fun i => recording (probe i)) s).any Event.applies = true := by
  induction is generalizing first with
  | nil =>
    obtain ⟨i, hi, -⟩ := happlies
    cases hi
  | cons i is ih =>
    obtain ⟨m, s₁, hi, hrest⟩ := bind_eq_ok.mp hrun
    obtain ⟨hlook, hsame⟩ := look_of_recording (hprobe i) hi
    rw [onlyOneApplicableOf, Plan.transcript_probe hi, List.any_cons]
    cases m with
    | noMatch =>
      obtain rfl := hsame nofun
      obtain ⟨j, hj, hne⟩ := happlies
      rcases List.mem_cons.mp hj with rfl | hj
      · exact absurd hlook hne
      · exact ih first hrest ⟨j, hj, hne⟩
    | isMatch => rfl
    | indeterminate e => rfl

end Combining

/-- The members with a property, by their places. -/
lemma map_val_filter_finRange {α : Type} (p : α → Bool) (l : List α) :
    ((List.finRange l.length).filter fun i => p (l.get i)).map Fin.val = l.findIdxs p := by
  induction l with
  | nil => rfl
  | cons a l ih =>
    have htail : ((List.finRange l.length).map Fin.succ).filter (fun i => p ((a :: l).get i)) =
        ((List.finRange l.length).filter fun i => p (l.get i)).map Fin.succ := by
      rw [List.filter_map]
      rfl
    have hplaces : (((List.finRange l.length).filter fun i => p (l.get i)).map Fin.succ).map
        Fin.val = l.findIdxs p 1 := by
      rw [List.findIdxs_start, ← ih, List.map_map, List.map_map]
      rfl
    have hrange : List.finRange (a :: l).length = 0 :: (List.finRange l.length).map Fin.succ :=
      List.finRange_succ
    rw [hrange, List.filter_cons, List.findIdxs_cons, htail, ← hplaces]
    rw [apply_ite (List.map Fin.val), List.map_cons]
    rfl

lemma any_finRange {α : Type} (p : α → Bool) (l : List α) :
    ((List.finRange l.length).any fun i => p (l.get i)) = l.any p := by
  calc ((List.finRange l.length).any fun i => p (l.get i))
      = ((List.finRange l.length).map l.get).any p := List.any_map.symm
    _ = l.any p := by rw [← List.ofFn_eq_map, List.ofFn_get]

namespace Environment

variable (env : Environment)

/-- The heading of a policy or a policy set, or of the one that a reference leads to. -/
def leadsTo? (s : Progress) : PolicyNode → Option Heading
  | .policy p => some p.heading
  | .policySet h _ => some h
  | .policyRef r =>
    match (env.resolvePolicy r s).1 with
    | .ok (.ok p) => some p.heading
    | _ => none
  | .policySetRef r =>
    match (env.resolvePolicySet r s).1 with
    | .ok (.ok set) => some set.heading
    | _ => none

/-- The node, or the one that it refers to, has a target that matches. -/
def hasMatch (s : Progress) (c : PolicyNode) : Bool :=
  (env.leadsTo? s c).any fun h => matched (env.matchTarget h.target)

/-- The node is a reference that leads nowhere, or the target cannot be evaluated. -/
def hasFailure (s : Progress) (c : PolicyNode) : Bool :=
  (env.leadsTo? s c).all fun h => undecided (env.matchTarget h.target)

/-- A look at a target changes nothing. -/
lemma probeNode_judges (s : Progress) (c : PolicyNode) :
    (env.probeNode c s).2 = s ∧ matched (env.probeNode c s).1 = env.hasMatch s c ∧
      undecided (env.probeNode c s).1 = env.hasFailure s c := by
  cases c with
  | policy p => exact ⟨rfl, rfl, rfl⟩
  | policySet h children => exact ⟨rfl, rfl, rfl⟩
  | policyRef r =>
    obtain ⟨found, hfound⟩ : ∃ found, env.resolvePolicy r s = (.ok found, s) :=
      ⟨_, env.resolvePolicy_apply r s⟩
    rw [hasMatch, hasFailure, leadsTo?, probeNode, bind_apply, hfound]
    cases found <;> exact ⟨rfl, rfl, rfl⟩
  | policySetRef r =>
    obtain ⟨found, hfound⟩ : ∃ found, env.resolvePolicySet r s = (.ok found, s) :=
      ⟨_, env.resolvePolicySet_apply r s⟩
    rw [hasMatch, hasFailure, leadsTo?, probeNode, bind_apply, hfound]
    cases found <;> exact ⟨rfl, rfl, rfl⟩

variable {env} {h : Heading} {children : List PolicyNode} {s s' : Progress} {d : Decision}

/-- The places of the children whose targets match are where the algorithm finds them. -/
lemma map_val_filter_probe (env : Environment) (h : Heading) (children : List PolicyNode)
    (s : Progress) :
    ((List.finRange (children.map (env.evaluatedChild h)).length).filter fun i =>
        matched (((children.map (env.evaluatedChild h)).get i).probe s).1).map Fin.val =
      children.findIdxs (env.hasMatch s) := by
  have hjudged : (fun c => matched ((env.evaluatedChild h c).probe s).1) = env.hasMatch s :=
    funext fun c => (env.probeNode_judges s c).2.1
  rw [map_val_filter_finRange fun c : Child NodeEvaluation => matched (c.probe s).1,
    List.findIdxs_map]
  exact congrArg (children.findIdxs ·) hjudged

lemma any_probe (env : Environment) (h : Heading) (children : List PolicyNode) (s : Progress) :
    ((List.finRange (children.map (env.evaluatedChild h)).length).any fun i =>
        undecided (((children.map (env.evaluatedChild h)).get i).probe s).1) =
      children.any (env.hasFailure s) := by
  have hjudged : (fun c => undecided ((env.evaluatedChild h c).probe s).1) = env.hasFailure s :=
    funext fun c => (env.probeNode_judges s c).2.2
  rw [any_finRange fun c : Child NodeEvaluation => undecided (c.probe s).1, List.any_map]
  exact congrArg (children.any ·) hjudged

/-- Where a child applies the decision of the algorithm is the combined decision. -/
lemma finalDecision_eq {version : Version} {applied : Bool}
    (h : applied = true ∨ d = .notApplicable) : finalDecision version applied false d = d := by
  unfold finalDecision
  rcases h with rfl | rfl <;> simp

/-- What the evaluation of the children comes to is what they are selected for. -/
lemma selection_combine {start after : Progress} {combined : Decision}
    (halgorithm : env.algorithms.require h.algorithm =
      .ok StandardAlgorithm.onlyOneApplicable.algorithm)
    (hrun : env.combine h (children.map (env.evaluatedChild h)) false start =
      (.ok combined, after)) :
    ∃ candidates, candidates.map Fin.val = children.findIdxs (env.hasMatch start) ∧
      Combining.Selection env.version
        (fun i => ((children.map (env.evaluatedChild h)).get i).evaluate) start after candidates
        (children.any (env.hasFailure start)) combined
        ((env.combineTranscript StandardAlgorithm.onlyOneApplicable.algorithm h
          (children.map (env.evaluatedChild h)) start).filterMap Event.body?) := by
  obtain ⟨a, d, ha, hx, rfl⟩ := env.combine_eq_ok hrun
  obtain rfl : a = StandardAlgorithm.onlyOneApplicable.algorithm :=
    Except.ok.inj (ha.symm.trans halgorithm)
  have hprobe : ∀ i, (((children.map (env.evaluatedChild h)).get i).probe start).2 = start := by
    intro i
    obtain ⟨c, -, hc⟩ := List.mem_map.mp (List.get_mem (children.map (env.evaluatedChild h)) i)
    rw [← hc]
    exact (env.probeNode_judges start c).1
  have hselection := Combining.selection_onlyOneApplicableOf hprobe none _ hx
  refine ⟨_, env.map_val_filter_probe h children start, ?_⟩
  rw [← any_probe, finalDecision_eq]
  · exact hselection
  · by_cases happlies : ∃ i ∈ List.finRange (children.map (env.evaluatedChild h)).length,
        (((children.map (env.evaluatedChild h)).get i).probe start).1 ≠ .ok .noMatch
    · exact .inl (Combining.applies_onlyOneApplicableOf hprobe none _ hx happlies)
    · simp only [not_exists, not_and, not_not] at happlies
      refine .inr (hselection.nothing ?_ ?_).1
      · exact List.any_eq_false.mpr fun i hi => by
          simp only [happlies i hi, undecided, Bool.false_eq_true, not_false_eq_true]
      · exact List.filter_eq_nil_iff.mpr fun i hi => by
          simp only [happlies i hi, matched, Bool.false_eq_true, not_false_eq_true]

/-- A child with standard algorithms decides in the words of the version, which are shown as they
are. -/
lemma shown_evaluateChild {c : PolicyNode} (hstandard : env.StandardThroughout c)
    (hrun : env.evaluateChild c s = (.ok d, s')) : env.version.shown d = d := by
  have hspoken : d ∈ env.version.vocabulary :=
    (articulate_node hstandard (articulate_enterSet hstandard _) c .start).evaluate s d s' hrun
  unfold Version.shown
  split
  · rfl
  · rename_i hversion
    exact (Version.mem_vocabulary_of_legacy (Bool.eq_false_of_not_eq_true hversion)).mp hspoken

/-- The decision of a policy set is the combined one, unless duties that go with it cannot be
evaluated. -/
lemma decision_of_conclude {definitions : List VariableDefinition} {combined : Decision}
    {inner : Findings} (hrun : env.conclude h definitions combined inner s = (.ok d, s')) :
    d = combined ∨ ∃ e : Effect, combined = e.decision ∧ d = env.version.indeterminate e := by
  rw [conclude_apply] at hrun
  split at hrun
  · cases hrun
    exact .inl rfl
  · rename_i e he
    split at hrun <;> cases hrun
    · exact .inl rfl
    · exact .inr ⟨e, Decision.effect?_eq_some.mp he, rfl⟩

/-- Where a child leads nowhere or its target cannot be evaluated, or where several targets match,
the combined decision is that of a failure, and no child is evaluated. Where one target matches this
child alone is evaluated, and once, and its decision is the combined one as the version shows it;
with standard algorithms, as it is. -/
theorem selects_by_target
    (halgorithm : env.algorithms.require h.algorithm =
      .ok StandardAlgorithm.onlyOneApplicable.algorithm)
    (htarget : env.matchTarget h.target = .ok .isMatch)
    (hrun : env.evaluateChild (.policySet h children) s = (.ok d, s')) :
    let start : Progress := { s with enclosing := h.id :: s.enclosing, findings := {} }
    let asked := env.combineTranscript StandardAlgorithm.onlyOneApplicable.algorithm h
      (children.map (env.evaluatedChild h)) start
    let bodies := asked.filterMap Event.body?
    let matching := children.findIdxs (env.hasMatch start)
    ∃ combined after,
      env.combine h (children.map (env.evaluatedChild h)) false start = (.ok combined, after) ∧
      (d = combined ∨ ∃ e : Effect, combined = e.decision ∧ d = env.version.indeterminate e) ∧
      ((∃ c ∈ children, env.hasFailure start c) ∨ 2 ≤ matching.length →
        combined = (if env.version.isExtended then .indeterminateDP else .indeterminate) ∧
          bodies = []) ∧
      (∀ i, (∀ c ∈ children, ¬ env.hasFailure start c) → matching = [i] →
        ∃ c decision, children[i]? = some c ∧ env.evaluateChild c start = (.ok decision, after) ∧
          bodies = [(i, start, .ok decision)] ∧ combined = env.version.shown decision ∧
          (env.StandardThroughout c → combined = decision)) ∧
      ((∀ c ∈ children, ¬ env.hasFailure start c) → matching = [] →
        combined = .notApplicable ∧ bodies = []) := by
  intro start asked bodies matching
  rw [evaluateChild_policySet, evaluateSet, whenApplicable_apply, htarget] at hrun
  obtain ⟨s₁, hbody, -⟩ := withinSet_eq_ok hrun
  rw [collecting_apply] at hbody
  rcases hcombine : env.combine h (children.map (env.evaluatedChild h)) false start with
    ⟨c | combined, after⟩
  · rw [hcombine] at hbody
    cases hbody
  · obtain ⟨candidates, hcandidates, hselection⟩ := selection_combine halgorithm hcombine
    have hfailed : children.any (env.hasFailure start) = false ↔
        ∀ c ∈ children, ¬ env.hasFailure start c := List.any_eq_false
    refine ⟨combined, after, rfl, ?_, ?_, ?_, ?_⟩
    · rw [hcombine] at hbody
      simp only at hbody
      split at hbody <;> cases hbody
      exact decision_of_conclude ‹_›
    · intro hambiguous
      refine hselection.ambiguous (hambiguous.imp List.any_eq_true.mpr fun hmatching => ?_)
      rwa [← List.length_map Fin.val, hcandidates]
    · intro i hclear hmatching
      obtain ⟨j, hj, rfl⟩ := List.map_eq_singleton_iff.mp (hcandidates.trans hmatching)
      obtain ⟨decision, hdecision, hcombined, hbodies⟩ :=
        hselection.single j (hfailed.mpr hclear) hj
      have hplace : j.val < children.length := by simpa using j.isLt
      rw [List.get_eq_getElem, List.getElem_map] at hdecision
      refine ⟨children[j.val], decision, List.getElem?_eq_getElem hplace, hdecision, hbodies,
        hcombined, fun hstandard => ?_⟩
      exact hcombined.trans (shown_evaluateChild hstandard hdecision)
    · intro hclear hmatching
      refine hselection.nothing (hfailed.mpr hclear) ?_
      exact List.map_eq_nil_iff.mp (hcandidates.trans hmatching)

section Choice

/-- Asks the first child, and suspects a denial whatever that decides. -/
def suspecting : CombiningAlgorithm := fun n _ _ _ =>
  match n with
  | 0 => .decide .notApplicable
  | _ + 1 => .evaluate 0 fun _ => .decide .indeterminateD

def suspicious : Policy where
  heading := { id := "suspicious", algorithm := "suspect" }
  rules := [{ id := "open", effect := .permit }]

def choosing : Heading := { id := "choosing", algorithm := "only one" }

/-- A request of version 2.0, and an algorithm besides the standard ones. -/
def choice : Environment where
  version := .v2_0
  source := Request.source { version := .v2_0 } none
  functions := .standard
  algorithms := (AlgorithmRegistry.empty.register "only one"
    StandardAlgorithm.onlyOneApplicable.algorithm).register "suspect" suspecting
  repository := ⟨fun _ _ => none, fun _ _ => none⟩
  maxReferenceDepth := 32
  collectPolicies := true
  clock := none

/-- The decision of the only child that applies is shown as another. -/
theorem exists_selected_not_combined :
    let start : Progress := { enclosing := ["choosing"] }
    choice.algorithms.require choosing.algorithm =
        .ok StandardAlgorithm.onlyOneApplicable.algorithm ∧
      choice.matchTarget choosing.target = .ok .isMatch ∧
      choice.hasFailure start (.policy suspicious) = false ∧
      choice.hasMatch start (.policy suspicious) = true ∧
      (choice.evaluateChild (.policy suspicious) start).1 = .ok .indeterminateD ∧
      (choice.combine choosing [choice.evaluatedChild choosing (.policy suspicious)] false start).1 =
        .ok .indeterminate ∧
      (choice.evaluateChild (.policySet choosing [.policy suspicious]) {}).1 = .ok .indeterminate :=
  ⟨rfl, rfl, rfl, rfl, rfl, rfl, rfl⟩

/-- It is evaluated once all the same. -/
theorem selects_by_target_suspicious :
    let start : Progress := { enclosing := ["choosing"] }
    let asked := choice.combineTranscript StandardAlgorithm.onlyOneApplicable.algorithm choosing
      [choice.evaluatedChild choosing (.policy suspicious)] start
    choice.algorithms.require choosing.algorithm =
        .ok StandardAlgorithm.onlyOneApplicable.algorithm ∧
      choice.matchTarget choosing.target = .ok .isMatch ∧
      (∃ s', choice.evaluateChild (.policySet choosing [.policy suspicious]) {} =
        (.ok .indeterminate, s')) ∧
      asked.filterMap Event.body? = [(0, start, .ok .indeterminateD)] := by
  have hrun : choice.evaluateChild (.policySet choosing [.policy suspicious]) {} =
      (.ok .indeterminate, _) := Prod.ext (by rfl) rfl
  obtain ⟨combined, after, -, -, -, hsingle, -⟩ := selects_by_target rfl rfl hrun
  have hclear : ∀ c ∈ [PolicyNode.policy suspicious],
      ¬ choice.hasFailure { enclosing := ["choosing"] } c := by
    intro c hc
    rw [List.mem_singleton.mp hc]
    exact Bool.false_ne_true
  obtain ⟨c, decision, hc, hdecision, hbodies, -⟩ := hsingle 0 hclear rfl
  obtain rfl : PolicyNode.policy suspicious = c := Option.some.inj hc
  obtain rfl : .indeterminateD = decision := Except.ok.inj (congrArg Prod.fst hdecision)
  exact ⟨rfl, rfl, ⟨_, hrun⟩, hbodies⟩

end Choice

end Environment

end PolicyDecision
