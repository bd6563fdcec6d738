import PolicyDecision.Evaluation.Target
import PolicyDecision.Proofs.Stateful

/-! The three values of a target and of its parts. They follow from the values of smaller parts, in
whichever order these are looked at. -/

namespace PolicyDecision

open Stateful

/-- Which of the three values a comparison has, whatever the error. -/
inductive Verdict
  | isMatch
  | noMatch
  | indeterminate
  deriving Repr, DecidableEq

def MatchResult.verdict : MatchResult → Verdict
  | isMatch => .isMatch
  | noMatch => .noMatch
  | indeterminate _ => .indeterminate

namespace Verdict

/-- A function compares two values; it may fail, and it may return something else than a boolean. -/
def ofComparison : Outcome Evaluated → Verdict
  | .ok (.value (.boolean true)) => .isMatch
  | .ok (.value (.boolean false)) => .noMatch
  | _ => .indeterminate

/-- An error of the configuration leaves no verdict. -/
def ofResult? : Except ConfigurationError MatchResult → Option Verdict
  | .ok result => some result.verdict
  | .error _ => none

/-- The verdicts on the parts of a target. -/
def onParts {α : Type} (look : α → Except ConfigurationError MatchResult) (parts : List α) :
    List Verdict :=
  parts.filterMap fun a => ofResult? (look a)

/-- The first of the verdicts that is among those of the parts, or else the second, or else the
third. -/
def prevailing (first second third : Verdict) (parts : List Verdict) : Verdict :=
  if first ∈ parts then first else if second ∈ parts then second else third

variable {first second third : Verdict}

lemma prevailing_congr {parts parts' : List Verdict} (h : ∀ v, v ∈ parts ↔ v ∈ parts') :
    prevailing first second third parts = prevailing first second third parts' := by
  simp only [prevailing, h]

lemma prevailing_eq_first_iff (hsecond : second ≠ first) (hthird : third ≠ first)
    {parts : List Verdict} : prevailing first second third parts = first ↔ first ∈ parts := by
  unfold prevailing
  split
  · rename_i h
    exact iff_of_true rfl h
  · rename_i h
    refine iff_of_false ?_ h
    split
    · exact hsecond
    · exact hthird

lemma prevailing_cons_third (hdistinct : [first, second, third].Nodup) (parts : List Verdict) :
    prevailing first second third (third :: parts) = prevailing first second third parts := by
  grind [prevailing]

/-- What prevails among two parts may stand for both of them. -/
lemma prevailing_absorb (hdistinct : [first, second, third].Nodup) (v w : Verdict)
    (parts : List Verdict) :
    prevailing first second third (prevailing first second third [v, w] :: parts) =
      prevailing first second third (v :: w :: parts) := by
  grind [prevailing]

end Verdict

lemma Target.mem_matchList {t : Target} {m : Match} :
    m ∈ t.matchList ↔ ∃ a ∈ t.anyOfs, ∃ b ∈ a.alternatives, m ∈ b.matchList := by
  simp only [matchList, List.mem_flatMap]

open Verdict

section Parts

variable {α : Type} {first second third before before' v : Verdict}
  {look : α → Except ConfigurationError MatchResult} {a : α} {parts : List α} {r : MatchResult}

/-- The verdict on parts that are looked at in turn until one has the first verdict. What prevailed
before is given. -/
structure Weighs (first second third before : Verdict)
    (look : α → Except ConfigurationError MatchResult) (parts : List α) (v : Verdict) : Prop where
  eq_prevailing : v = prevailing first second third (before :: onParts look parts)
  complete : v ≠ first → ∀ a ∈ parts, ∃ r, look a = .ok r

namespace Weighs

lemma nil (h : v = prevailing first second third [before]) :
    Weighs first second third before look [] v :=
  ⟨h, fun _ => List.forall_mem_nil _⟩

/-- Nothing more need be looked at. -/
lemma decided (ha : look a = .ok r) (hr : r.verdict = first) :
    Weighs first second third before look (a :: parts) first := by
  refine ⟨?_, fun h => absurd rfl h⟩
  simp [prevailing, onParts, ha, ofResult?, hr]

lemma next (hdistinct : [first, second, third].Nodup)
    (hbefore : before' = prevailing first second third [before, r.verdict]) (ha : look a = .ok r)
    (h : Weighs first second third before' look parts v) :
    Weighs first second third before look (a :: parts) v := by
  obtain ⟨heq, hcomplete⟩ := h
  refine ⟨?_, fun hv => List.forall_mem_cons.mpr ⟨⟨r, ha⟩, hcomplete hv⟩⟩
  rw [heq, hbefore, prevailing_absorb hdistinct, onParts, onParts, List.filterMap_cons, ha]
  rfl

/-- Where the third verdict is the given one, only the parts matter. -/
lemma verdict_eq (hdistinct : [first, second, third].Nodup)
    (h : Weighs first second third third look parts v) :
    v = prevailing first second third (onParts look parts) := by
  rw [h.eq_prevailing, prevailing_cons_third hdistinct]

end Weighs

end Parts

namespace Environment

variable {env : Environment}

/-- What the error kept so far makes of a result, if nothing decides against it. -/
def keptVerdict (error : Option EvaluationError) (result : MatchResult) : Verdict :=
  ((error.map .indeterminate).getD result).verdict

lemma verdict_matchValues (f : FunctionRef) (literal : Value) (error : Option EvaluationError)
    (values : List Value) : (env.matchValues f literal error values).verdict =
      prevailing .isMatch .indeterminate .noMatch (keptVerdict error .noMatch ::
        values.map fun v => ofComparison (env.call f [.value literal, .value v])) := by
  induction values generalizing error with
  | nil => cases error <;> rfl
  | cons v vs ih =>
    rw [List.map_cons, ← prevailing_absorb (by decide)]
    unfold matchValues
    split
    · rename_i hcall
      simp [hcall, ofComparison, prevailing, MatchResult.verdict]
    · rename_i hcall
      rw [ih, hcall]
      cases error <;> rfl
    · rename_i other htrue hfalse hcall
      have hother : ofComparison (.ok other) = .indeterminate := by
        unfold ofComparison
        split
        · rename_i heq
          cases heq
          exact (htrue rfl).elim
        · rename_i heq
          cases heq
          exact (hfalse rfl).elim
        · rfl
      rw [ih, hcall, hother]
      cases error <;> rfl
    · rename_i e hcall
      rw [ih, hcall]
      cases error <;> rfl

lemma weighs_matchAll {error : Option EvaluationError} {ms : List Match} {r : MatchResult}
    (h : env.matchAll error ms = .ok r) :
    Weighs .noMatch .indeterminate .isMatch (keptVerdict error .isMatch) env.matchOne ms r.verdict := by
  induction ms generalizing error with
  | nil =>
    cases h
    refine .nil ?_
    cases error <;> rfl
  | cons m ms ih =>
    obtain ⟨result, hm, h⟩ := except_bind_eq_ok.mp h
    cases result with
    | isMatch => exact .next (by decide) (by cases error <;> rfl) hm (ih h)
    | noMatch =>
      cases h
      exact .decided hm rfl
    | indeterminate e => exact .next (by decide) (by cases error <;> rfl) hm (ih h)

lemma weighs_matchAlternatives {error : Option EvaluationError} {as : List AllOf} {r : MatchResult}
    (h : env.matchAlternatives error as = .ok r) :
    Weighs .isMatch .indeterminate .noMatch (keptVerdict error .noMatch)
      (fun a => env.matchAll none a.matchList) as r.verdict := by
  induction as generalizing error with
  | nil =>
    cases h
    refine .nil ?_
    cases error <;> rfl
  | cons a as ih =>
    obtain ⟨result, ha, h⟩ := except_bind_eq_ok.mp h
    cases result with
    | isMatch =>
      cases h
      exact .decided ha rfl
    | noMatch => exact .next (by decide) (by cases error <;> rfl) ha (ih h)
    | indeterminate e => exact .next (by decide) (by cases error <;> rfl) ha (ih h)

lemma matchAnyOf_of_nil {a : AnyOf} (h : a.alternatives = []) : env.matchAnyOf a = .ok .isMatch :=
  if_pos (List.isEmpty_iff.mpr h)

lemma matchAnyOf_of_ne_nil {a : AnyOf} (h : a.alternatives ≠ []) :
    env.matchAnyOf a = env.matchAlternatives none a.alternatives :=
  if_neg fun hempty => h (List.isEmpty_iff.mp hempty)

lemma weighs_matchAnyOfs {start : MatchResult} (hstart : start.verdict ≠ .indeterminate)
    {as : List AnyOf} {r : MatchResult} (h : env.matchAnyOfs start as = .ok r) :
    Weighs .indeterminate .noMatch .isMatch start.verdict env.matchAnyOf as r.verdict := by
  induction as generalizing start with
  | nil =>
    cases h
    refine .nil ?_
    cases r <;> rfl
  | cons a as ih =>
    obtain ⟨result, ha, h⟩ := except_bind_eq_ok.mp h
    cases result with
    | isMatch =>
      refine .next (by decide) ?_ ha (ih hstart h)
      cases start <;> rfl
    | noMatch =>
      refine .next (by decide) ?_ ha (ih (by decide) h)
      cases start with
      | indeterminate e => exact absurd rfl hstart
      | _ => rfl
    | indeterminate e =>
      cases h
      exact .decided ha rfl

/-- The comparisons of a literal with the values of an attribute come to nothing if either is
missing. -/
def comparing (env : Environment) (f : FunctionRef) : Except Fault Value → Except Fault Bag → Verdict
  | .ok literal, .ok bag => prevailing .isMatch .indeterminate .noMatch
      (bag.values.map fun v => ofComparison (env.call f [.value literal, .value v]))
  | _, _ => .indeterminate

lemma verdict_matchOne {m : Match} {r : MatchResult} (h : env.matchOne m = .ok r) :
    ∃ f, env.functions.require m.function = .ok f ∧
      r.verdict = env.comparing f m.literal.resolve (env.attributes m.attributes) := by
  obtain ⟨f, hf, h⟩ := except_bind_eq_ok.mp h
  refine ⟨f, hf, ?_⟩
  rcases hliteral : m.literal.resolve with (_ | _) | literal
  · rw [hliteral] at h
    cases h
    rfl
  · rw [hliteral] at h
    cases h
  · rw [hliteral] at h
    rcases hbag : env.attributes m.attributes with (_ | _) | bag
    · rw [hbag] at h
      cases h
      rfl
    · rw [hbag] at h
      cases h
    · rw [hbag] at h
      cases h
      rw [verdict_matchValues]
      exact prevailing_cons_third (by decide) _

lemma verdict_matchAll {ms : List Match} {r : MatchResult} (h : env.matchAll none ms = .ok r) :
    r.verdict = prevailing .noMatch .indeterminate .isMatch (onParts env.matchOne ms) :=
  (weighs_matchAll h).verdict_eq (by decide)

lemma verdict_matchAnyOf {a : AnyOf} {r : MatchResult} (h : env.matchAnyOf a = .ok r) :
    r.verdict = if a.alternatives = [] then .isMatch else
      prevailing .isMatch .indeterminate .noMatch
        (onParts (fun b => env.matchAll none b.matchList) a.alternatives) := by
  split
  · rename_i hnil
    rw [matchAnyOf_of_nil hnil] at h
    cases h
    rfl
  · rename_i hnil
    rw [matchAnyOf_of_ne_nil hnil] at h
    exact (weighs_matchAlternatives h).verdict_eq (by decide)

lemma verdict_matchTarget {target : Option Target} {r : MatchResult}
    (h : env.matchTarget target = .ok r) :
    r.verdict = prevailing .indeterminate .noMatch .isMatch
      (onParts env.matchAnyOf (target.toList.flatMap Target.anyOfs)) := by
  cases target with
  | none =>
    cases h
    rfl
  | some t =>
    rw [Option.toList_some, List.flatMap_singleton]
    exact (weighs_matchAnyOfs (by decide) h).verdict_eq (by decide)

section Totality

lemma exists_matchAll {ms : List Match} (h : ∀ m ∈ ms, ∃ r, env.matchOne m = .ok r)
    (error : Option EvaluationError) : ∃ r, env.matchAll error ms = .ok r := by
  induction ms generalizing error with
  | nil => exact ⟨_, rfl⟩
  | cons m ms ih =>
    obtain ⟨⟨r, hm⟩, hms⟩ := List.forall_mem_cons.mp h
    have hrest := ih hms
    rw [matchAll, hm]
    cases r with
    | isMatch => exact hrest error
    | noMatch => exact ⟨_, rfl⟩
    | indeterminate e => exact hrest _

lemma exists_matchAlternatives {as : List AllOf}
    (h : ∀ a ∈ as, ∀ m ∈ a.matchList, ∃ r, env.matchOne m = .ok r)
    (error : Option EvaluationError) : ∃ r, env.matchAlternatives error as = .ok r := by
  induction as generalizing error with
  | nil => exact ⟨_, rfl⟩
  | cons a as ih =>
    obtain ⟨ha, has⟩ := List.forall_mem_cons.mp h
    obtain ⟨r, ha⟩ := exists_matchAll ha none
    have hrest := ih has
    rw [matchAlternatives, ha]
    cases r with
    | isMatch => exact ⟨_, rfl⟩
    | noMatch => exact hrest error
    | indeterminate e => exact hrest _

lemma exists_matchAnyOfs {as : List AnyOf}
    (h : ∀ a ∈ as, ∀ b ∈ a.alternatives, ∀ m ∈ b.matchList, ∃ r, env.matchOne m = .ok r)
    (start : MatchResult) : ∃ r, env.matchAnyOfs start as = .ok r := by
  induction as generalizing start with
  | nil => exact ⟨start, rfl⟩
  | cons a as ih =>
    obtain ⟨ha, has⟩ := List.forall_mem_cons.mp h
    have hany : ∃ r, env.matchAnyOf a = .ok r := by
      by_cases hnil : a.alternatives = []
      · exact ⟨_, matchAnyOf_of_nil hnil⟩
      · rw [matchAnyOf_of_ne_nil hnil]
        exact exists_matchAlternatives ha none
    obtain ⟨r, ha⟩ := hany
    have hrest := ih has
    rw [matchAnyOfs, ha]
    cases r with
    | isMatch => exact hrest start
    | noMatch => exact hrest .noMatch
    | indeterminate e => exact ⟨_, rfl⟩

/-- A target has a value if all its comparisons have one. -/
lemma exists_matchTarget {target : Option Target}
    (h : ∀ m ∈ target.toList.flatMap Target.matchList, ∃ r, env.matchOne m = .ok r) :
    ∃ r, env.matchTarget target = .ok r := by
  cases target with
  | none => exact ⟨_, rfl⟩
  | some t =>
    refine exists_matchAnyOfs (fun a ha b hb m hm => h m ?_) .isMatch
    rw [Option.toList_some, List.flatMap_singleton]
    exact Target.mem_matchList.mpr ⟨a, ha, b, hb, hm⟩

end Totality

end Environment

end PolicyDecision
