import PolicyDecision.Proofs.Combining.Abstraction
import PolicyDecision.Proofs.Order.Algorithm

/-! Which decision prevails before version 3.0 where one effect overrides the other. -/

namespace PolicyDecision

/-- What is answered about a child and the effect that it declares. -/
def Reply.outcome (r : Reply) : Decision × Option Effect := (r.decision, r.info.hint)

namespace Combining

/-- A denial comes first where denials override, then a failure that may hide one, then a permit,
then any other failure. The outcomes are decisions with the effects that the children declare. -/
def precedence (dominant : Effect) (outcomes : List (Decision × Option Effect)) : Decision :=
  if ∃ o ∈ outcomes, o.1 = dominant.decision then dominant.decision
  else if ∃ o ∈ outcomes, o.1.isIndeterminate ∧ o.2 = some dominant then .indeterminate
  else if ∃ o ∈ outcomes, o.1 = dominant.opposite.decision then dominant.opposite.decision
  else if ∃ o ∈ outcomes, o.1.isIndeterminate then .indeterminate
  else .notApplicable

/-- The outcome with the two effects exchanged. -/
def oppositeOutcome (o : Decision × Option Effect) : Decision × Option Effect :=
  (o.1.opposite, o.2.map Effect.opposite)

variable (dominant : Effect) (outcomes : List (Decision × Option Effect))

/-- Turning all the effects turns the decision. -/
lemma precedence_opposite :
    precedence dominant.opposite (outcomes.map oppositeOutcome) =
      (precedence dominant outcomes).opposite := by
  have hdecision : ∀ (d : Decision) (e : Effect),
      d.opposite = e.opposite.decision ↔ d = e.decision := by
    intro d e
    cases d <;> cases e <;> decide
  have hfails : ∀ d : Decision, d.opposite.isIndeterminate = d.isIndeterminate := by
    intro d
    cases d <;> rfl
  have hhint : ∀ hint : Option Effect,
      hint.map Effect.opposite = some dominant.opposite ↔ hint = some dominant := by
    intro hint
    rcases hint with _ | _ | _ <;> cases dominant <;> decide
  have hmap : ∀ P : Decision × Option Effect → Prop,
      (∃ o ∈ outcomes.map oppositeOutcome, P o) ↔ ∃ o ∈ outcomes, P (oppositeOutcome o) := by
    simp only [List.mem_map, exists_exists_and_eq_and, implies_true]
  -- Each condition holds of the turned outcomes if it holds of the outcomes themselves.
  simp only [precedence, hmap, oppositeOutcome, hdecision, hfails, hhint]
  split_ifs <;> cases dominant <;> rfl

/-- Without declared effects no failure can stand before a permit. -/
lemma precedence_of_no_hints (hhints : ∀ o ∈ outcomes, o.2 = none)
    (hother : ∃ o ∈ outcomes, o.1 = dominant.opposite.decision) :
    precedence dominant outcomes = dominant.decision ∨
      precedence dominant outcomes = dominant.opposite.decision := by
  have hfails : ¬ ∃ o ∈ outcomes, o.1.isIndeterminate ∧ o.2 = some dominant := by
    rintro ⟨o, ho, -, hhint⟩
    cases (hhints o ho).symm.trans hhint
  rw [precedence, if_neg hfails, if_pos hother]
  split_ifs
  · exact .inl rfl
  · exact .inr rfl

lemma LegacyTally.add_eq (t : LegacyTally) (hint : Option Effect) (d : Decision) :
    t.add (orientedEffect dominant hint) (oriented dominant d) =
      { permit := t.permit || d == dominant.opposite.decision
        error := t.error || d.isIndeterminate
        potentialDeny := t.potentialDeny || (d.isIndeterminate && hint == some dominant) } := by
  obtain ⟨permit, error, potentialDeny⟩ := t
  cases dominant <;> cases d <;> rcases hint with _ | _ | _ <;>
    revert permit error potentialDeny <;> decide

/-- A tally notes which sorts of outcomes there are. -/
lemma LegacyTally.foldl_add (replies : List Reply) (t : LegacyTally) :
    replies.foldl (fun t r => t.add (orientedEffect dominant r.info.hint)
        (oriented dominant r.decision)) t =
      { permit := t.permit || replies.any (·.decision == dominant.opposite.decision)
        error := t.error || replies.any (·.decision.isIndeterminate)
        potentialDeny := t.potentialDeny ||
          replies.any fun r => r.decision.isIndeterminate && r.info.hint == some dominant } := by
  induction replies generalizing t with
  | nil => simp
  | cons r replies ih =>
    rw [List.foldl_cons, ih, LegacyTally.add_eq]
    simp only [List.any_cons, Bool.or_assoc]

lemma Search.outcome_fst (search : Search) (t : search.Tally) (replies : List Reply)
    (applied : Bool) :
    (search.outcome t replies applied).1 =
      if replies.any (·.decision == search.sought) then search.sought
      else search.otherwise (replies.foldl (fun t r => search.add t r.info r.decision) t) := by
  rw [outcome, apply_ite Prod.fst]

/-- The search comes to the outcome of the highest precedence. -/
lemma outcome_legacySearch (replies : List Reply) :
    ((legacySearch dominant).outcome ({} : LegacyTally) replies false).1 =
      precedence dominant (replies.map Reply.outcome) := by
  refine (Search.outcome_fst (legacySearch dominant) ({} : LegacyTally) replies false).trans ?_
  change (if replies.any (·.decision == dominant.decision) = true then dominant.decision
    else oriented dominant (replies.foldl (fun t r => t.add (orientedEffect dominant r.info.hint)
        (oriented dominant r.decision)) ({} : LegacyTally)).decision) = _
  rw [LegacyTally.foldl_add]
  simp only [precedence, List.mem_map, exists_exists_and_eq_and, Reply.outcome, List.any_eq_true,
    LegacyTally.decision, Bool.false_or, beq_iff_eq, Bool.and_eq_true]
  split_ifs <;> cases dominant <;> rfl

end Combining

/-- What the child answers. -/
def Child.reply (c : Child Id) : Reply := ⟨c.info, c.evaluate, c.probe⟩

/-- What the child decides and the effect that it declares. -/
def Child.outcome (c : Child Id) : Decision × Option Effect := c.reply.outcome

/-- A run over known answers decides as their outcome does. -/
lemma Plan.run_eq_outcome {n : ℕ} (evaluate : Fin n → Decision) (probe : Fin n → MatchResult)
    (plan : Plan n) (applied : Bool) :
    plan.run (m := Id) evaluate probe = (plan.outcome evaluate probe applied).1 := by
  induction plan generalizing applied with
  | decide d => rfl
  | evaluate i next ih => exact ih (evaluate i) _
  | probe i next ih => exact ih (probe i) _

lemma CombiningAlgorithm.run_eq_outcome (a : CombiningAlgorithm) (children : List (Child Id))
    (parameters : List Parameter) (version : Version) :
    a.run children parameters version =
      (a.outcome (children.map Child.reply) parameters version).1 := by
  have key : ∀ (k : ℕ) (h : k = (children.map Child.reply).length),
      a.outcome (children.map Child.reply) parameters version =
        (a k (fun i => ((children.map Child.reply).get (i.cast h)).info) parameters version).outcome
          (fun i => ((children.map Child.reply).get (i.cast h)).decision)
          (fun i => ((children.map Child.reply).get (i.cast h)).target) false := by
    rintro k rfl
    rfl
  rw [key children.length (by simp)]
  simp only [List.get_eq_getElem, Fin.val_cast, List.getElem_map]
  exact Plan.run_eq_outcome _ _ _ false

/-- An algorithm that searches decides for what comes of the search in terms of all the answers. -/
lemma Combining.Search.run_eq_outcome (search : Search) (t : search.Tally) {a : CombiningAlgorithm}
    {parameters : List Parameter} {version : Version}
    (hplan : ∀ n info, a n info parameters version = search.plan info t (List.finRange n))
    (children : List (Child Id)) :
    a.run children parameters version =
      (search.outcome t (children.map Child.reply) false).1 := by
  rw [CombiningAlgorithm.run_eq_outcome, CombiningAlgorithm.outcome, hplan, outcome_plan,
    ← List.ofFn_eq_map, List.ofFn_get]

/-- The child with the two effects exchanged. -/
def Child.opposite (c : Child Id) : Child Id :=
  ⟨{ c.info with hint := c.info.hint.map Effect.opposite }, c.evaluate.opposite, c.probe⟩

namespace StandardAlgorithm

section

variable {version : Version} (hversion : version.isExtended = false) (dominant : Effect)
  (children : List (Child Id)) (parameters : List Parameter)
include hversion

lemma run_overriding_legacy :
    (overriding dominant).algorithm.run children parameters version =
      Combining.precedence dominant (children.map Child.outcome) := by
  have hplan : ∀ n (info : Fin n → ChildInfo), (overriding dominant).algorithm n info parameters
      version = (Combining.legacySearch dominant).plan info ({} : Combining.LegacyTally)
        (List.finRange n) := by
    intro n info
    have halgorithm : (overriding dominant).algorithm = Combining.overrides dominant := by
      cases dominant <;> rfl
    rw [halgorithm, Combining.overrides, hversion, if_neg Bool.false_ne_true]
    exact Combining.plan_legacySearch dominant info {} (List.finRange n)
  rw [Combining.Search.run_eq_outcome _ _ hplan, Combining.outcome_legacySearch, List.map_map]
  rfl

/-- The order and the number of the children do not matter to the decision: it is the one that comes
first in the order of precedence. Where no child declares its effect a failure never outweighs the
effect that is overridden, and exchanging the effects exchanges the decisions. -/
theorem overriding_precedence :
    let result (e : Effect) (cs : List (Child Id)) : Decision :=
      (overriding e).algorithm.run cs parameters version
    result dominant children = Combining.precedence dominant (children.map Child.outcome) ∧
      ((∀ c ∈ children, c.info.hint = none) →
        (∃ c ∈ children, c.evaluate = dominant.opposite.decision) →
          result dominant children ≠ .indeterminate) ∧
      result dominant.opposite (children.map Child.opposite) =
        (result dominant children).opposite := by
  intro result
  have hresult : ∀ e cs, result e cs = Combining.precedence e (cs.map Child.outcome) := fun e cs =>
    run_overriding_legacy hversion e cs parameters
  refine ⟨hresult dominant children, ?_, ?_⟩
  · intro hhints hother hindeterminate
    have hplain : ∀ o ∈ children.map Child.outcome, o.2 = none := by
      intro o ho
      obtain ⟨c, hc, rfl⟩ := List.mem_map.mp ho
      exact hhints c hc
    obtain ⟨c, hc, hdecision⟩ := hother
    rw [hresult] at hindeterminate
    obtain heffect | heffect := Combining.precedence_of_no_hints dominant _ hplain
      ⟨c.outcome, List.mem_map_of_mem hc, hdecision⟩
    · cases dominant <;> cases heffect.symm.trans hindeterminate
    · cases dominant <;> cases heffect.symm.trans hindeterminate
  · have hopposite : (children.map Child.opposite).map Child.outcome =
        (children.map Child.outcome).map Combining.oppositeOutcome := by
      rw [List.map_map, List.map_map]
      rfl
    rw [hresult, hresult, hopposite, Combining.precedence_opposite]

end

/-- A failure of unknown effect counts for less than a permit, and for less than a denial where the
effects are exchanged. -/
theorem overriding_precedence_of_failure :
    let children : List (Child Id) := [.deciding .indeterminate, .deciding .permit]
    Version.v2_0.isExtended = false ∧ (∀ c ∈ children, c.info.hint = none) ∧
      (∃ c ∈ children, c.evaluate = .permit) ∧
      denyOverrides.algorithm.run children [] .v2_0 = Decision.permit ∧
      denyOverrides.algorithm.run children [] .v2_0 ≠ Decision.indeterminate ∧
      permitOverrides.algorithm.run (children.map Child.opposite) [] .v2_0 = Decision.deny := by
  intro children
  obtain ⟨hdecision, hpermit, hopposite⟩ :=
    overriding_precedence (rfl : Version.v2_0.isExtended = false) .deny children []
  have hhints : ∀ c ∈ children, c.info.hint = none := by
    intro c hc
    rcases List.mem_pair.mp hc with rfl | rfl <;> rfl
  have hother : ∃ c ∈ children, c.evaluate = .permit :=
    ⟨.deciding .permit, List.mem_cons_of_mem _ List.mem_cons_self, rfl⟩
  have hfirst : Combining.precedence .deny (children.map Child.outcome) = .permit := by decide
  refine ⟨rfl, hhints, hother, hdecision.trans hfirst, hpermit hhints hother, ?_⟩
  exact hopposite.trans (congrArg Decision.opposite (hdecision.trans hfirst))

end StandardAlgorithm

end PolicyDecision
