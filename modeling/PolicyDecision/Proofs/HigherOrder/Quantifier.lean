import PolicyDecision.Proofs.Function.Argument
import PolicyDecision.Proofs.Termination.Function

/-! Quantifiers over the members of bags. They go through the members in order and end at the first
one that settles them, or that cannot be tested. -/

namespace PolicyDecision

open Stateful

namespace HigherOrder

/-- The quantifier of a function that goes through one bag. -/
def quantifier? : HigherOrder → Option Quantifier
  | anyOf => some .any
  | allOf => some .all
  | _ => none

/-- The outer and the inner quantifier of a function that goes through two bags. -/
def nesting? : HigherOrder → Option (Quantifier × Quantifier)
  | allOfAny => some (.all, .any)
  | anyOfAll => some (.any, .all)
  | allOfAll => some (.all, .all)
  | _ => none

namespace Quantifier

variable {α : Type} {q : Quantifier} {results : List (Outcome Bool)}

/-- What the quantifier comes to if there are no members. -/
def ofNone : Quantifier → Bool
  | all => true
  | any => false

/-- Whether the members after one with this result need not be looked at. -/
def endsAt (q : Quantifier) : Outcome Bool → Bool
  | .ok b => b != q.ofNone
  | .error _ => true

/-- What the quantifier comes to, given the results for its members in order: the first of them at
which it ends. -/
def settled (q : Quantifier) (results : List (Outcome Bool)) : Outcome Bool :=
  (results.find? q.endsAt).getD (.ok q.ofNone)

/-- The formula that the quantifier stands for. -/
def Ranges (q : Quantifier) (P : α → Prop) (members : List α) : Prop :=
  match q with
  | all => ∀ a ∈ members, P a
  | any => ∃ a ∈ members, P a

lemma endsAt_eq_false_iff {r : Outcome Bool} : q.endsAt r = false ↔ r = .ok q.ofNone := by
  cases r <;> simp [endsAt]

lemma settled_nil : q.settled [] = .ok q.ofNone := rfl

lemma settled_cons (r : Outcome Bool) (results : List (Outcome Bool)) :
    q.settled (r :: results) = if q.endsAt r then r else q.settled results := by
  rw [settled, List.find?_cons]
  cases q.endsAt r <;> rfl

/-- All members were looked at, and none of them settled the quantifier. -/
lemma settled_eq_ofNone_iff :
    q.settled results = .ok q.ofNone ↔ ∀ r ∈ results, r = .ok q.ofNone := by
  induction results with
  | nil => simp [settled_nil]
  | cons r results ih =>
    rw [settled_cons, List.forall_mem_cons, ← ih]
    cases h : q.endsAt r with
    | true =>
      have hr : r ≠ .ok q.ofNone := fun heq => by simp [endsAt_eq_false_iff.mpr heq] at h
      simp [hr]
    | false => simp [endsAt_eq_false_iff.mp h]

/-- Any other outcome is that for a member, and none before it settled the quantifier. -/
lemma settled_eq_iff {outcome : Outcome Bool} (houtcome : outcome ≠ .ok q.ofNone) :
    q.settled results = outcome ↔
      ∃ before after, results = before ++ outcome :: after ∧ ∀ r ∈ before, r = .ok q.ofNone := by
  have hends : q.endsAt outcome = true := by
    rw [← Bool.not_eq_false, endsAt_eq_false_iff]
    exact houtcome
  rw [settled]
  constructor
  · intro h
    cases hfind : results.find? q.endsAt with
    | none =>
      rw [hfind] at h
      exact absurd h.symm houtcome
    | some r =>
      obtain rfl : r = outcome := by simpa [hfind] using h
      obtain ⟨-, before, after, rfl, hbefore⟩ := List.find?_eq_some_iff_append.mp hfind
      refine ⟨before, after, rfl, fun r hr => endsAt_eq_false_iff.mp ?_⟩
      simpa using hbefore r hr
  · rintro ⟨before, after, rfl, hbefore⟩
    have hfind : (before ++ outcome :: after).find? q.endsAt = some outcome := by
      refine List.find?_eq_some_iff_append.mpr ⟨hends, before, after, rfl, fun r hr => ?_⟩
      simp [endsAt_eq_false_iff.mpr (hbefore r hr)]
    rw [hfind, Option.getD_some]

lemma along_eq_settled (holds : Value → Outcome Bool) (vs : List Value) :
    q.along holds vs = q.settled (vs.map holds) := by
  induction vs with
  | nil => cases q <;> rfl
  | cons v vs ih =>
    rw [along, List.map_cons, settled_cons, ← ih]
    cases q <;> rcases holds v with e | _ | _ <;> rfl

lemma exists_of_settled {result : α → Outcome Bool} {members : List α} {outcome : Outcome Bool}
    (houtcome : outcome ≠ .ok q.ofNone) (h : q.settled (members.map result) = outcome) :
    ∃ a ∈ members, result a = outcome := by
  obtain ⟨before, after, hmap, -⟩ := (settled_eq_iff houtcome).mp h
  exact List.mem_map.mp (hmap ▸ List.mem_append_right before List.mem_cons_self)

/-- If every member has a result, the quantifier tells whether its formula holds. -/
lemma exists_settled {result : α → Outcome Bool} {P : α → Prop} {members : List α}
    (h : ∀ a ∈ members, ∃ b, result a = .ok b ∧ (b = true ↔ P a)) :
    ∃ b, q.settled (members.map result) = .ok b ∧ (b = true ↔ q.Ranges P members) := by
  induction members with
  | nil => exact ⟨q.ofNone, rfl, by cases q <;> simp [ofNone, Ranges]⟩
  | cons a members ih =>
    obtain ⟨⟨b, hb, hP⟩, hmembers⟩ := List.forall_mem_cons.mp h
    obtain ⟨c, hc, hranges⟩ := ih hmembers
    rw [List.map_cons, settled_cons, hb, hc]
    cases q <;> cases b <;> simp_all [endsAt, ofNone, Ranges]

end Quantifier

open Quantifier

section Test

variable {invoke : Invoke} {f : FunctionRef} {values : List Value}

lemma test_eq_ok {b : Bool} :
    test invoke f values = .ok b ↔ invoke f (values.map .value) = .ok (.boolean b) := by
  rw [test, except_bind_eq_ok]
  constructor
  · rintro ⟨result, hcall, h⟩
    split at h
    · cases h
      exact hcall
    · cases h
  · intro h
    exact ⟨_, h, rfl⟩

/-- A test of a boolean function says whether the function is true. -/
lemma exists_test (h : ∃ b, invoke f (values.map .value) = .ok (.boolean b)) :
    ∃ b, test invoke f values = .ok b ∧
      (b = true ↔ invoke f (values.map .value) = .ok (.boolean true)) := by
  obtain ⟨b, hb⟩ := h
  refine ⟨b, test_eq_ok.mpr hb, ?_⟩
  rw [hb]
  cases b <;> simp [Evaluated.boolean]

lemma quantify_eq_settled (invoke : Invoke) (q : Quantifier) (f : FunctionRef)
    (fixed : List Value) (b : Bag) :
    quantify invoke q (.function f :: (fixed.map .value ++ [.bag b])) =
      q.settled (b.values.map fun v => test invoke f (fixed ++ [v])) := by
  have happlication : application (.function f :: (fixed.map .value ++ [.bag b])) =
      .ok ⟨f, fixed, b⟩ := application_eq_ok.mpr rfl
  rw [quantify, happlication, ← along_eq_settled]
  rfl

lemma quantifyTwice_eq_settled (invoke : Invoke) (outer inner : Quantifier) (f : FunctionRef)
    (a b : Bag) :
    quantifyTwice invoke outer inner [.function f, .bag a, .bag b] =
      outer.settled (a.values.map fun v =>
        inner.settled (b.values.map fun w => test invoke f [v, w])) := by
  simp only [← along_eq_settled]
  rfl

end Test

end HigherOrder

namespace FunctionRegistry

open HigherOrder Quantifier

variable (r : FunctionRegistry) (context : FunctionContext) (uri : String)

lemma call_higherOrder (op : HigherOrder) (args : Arguments) :
    r.call context ⟨uri, .standard (.higherOrder op)⟩ args = op.call (r.call context) args :=
  r.call_standard context uri (.higherOrder op) args

/-- The function returns a boolean for the values. -/
def IsBoolean (f : FunctionRef) (values : List Value) : Prop :=
  ∃ b, r.call context f (values.map .value) = .ok (.boolean b)

/-- The function returns true for the values. -/
def IsTrue (f : FunctionRef) (values : List Value) : Prop :=
  r.call context f (values.map .value) = .ok (.boolean true)

/-- Applies a function along a bag, with fixed values before the members. -/
def overBag (op : HigherOrder) (f : FunctionRef) (fixed : List Value) (b : Bag) :
    Outcome Evaluated :=
  r.call context ⟨uri, .standard (.higherOrder op)⟩ (.function f :: (fixed.map .value ++ [.bag b]))

/-- Applies a function to the members of two bags. -/
def overBags (op : HigherOrder) (f : FunctionRef) (a b : Bag) : Outcome Evaluated :=
  r.call context ⟨uri, .standard (.higherOrder op)⟩ [.function f, .bag a, .bag b]

variable {op : HigherOrder} {q outer inner : Quantifier} {f : FunctionRef} {a b : Bag}
  {fixed : List Value}

lemma overBag_eq_settled (hop : op.quantifier? = some q) :
    r.overBag context uri op f fixed b = .boolean <$>
      q.settled (b.values.map fun y => test (r.call context) f (fixed ++ [y])) := by
  rw [overBag, call_higherOrder, ← quantify_eq_settled]
  cases op <;> cases hop <;> rfl

lemma overBags_eq_settled (hop : op.nesting? = some (outer, inner)) :
    r.overBags context uri op f a b = .boolean <$> outer.settled (a.values.map fun x =>
      inner.settled (b.values.map fun y => test (r.call context) f [x, y])) := by
  rw [overBags, call_higherOrder, ← quantifyTwice_eq_settled]
  cases op <;> cases hop <;> rfl

lemma tells_overBag (hop : op.quantifier? = some q)
    (hf : ∀ y ∈ b.values, r.IsBoolean context f (fixed ++ [y])) :
    (r.overBag context uri op f fixed b).Tells
      (q.Ranges (fun y => r.IsTrue context f (fixed ++ [y])) b.values) := by
  rw [overBag_eq_settled r context uri hop]
  exact Outcome.tells_boolean (exists_settled fun y hy => exists_test (hf y hy))

lemma tells_overBags (hop : op.nesting? = some (outer, inner))
    (hf : ∀ x ∈ a.values, ∀ y ∈ b.values, r.IsBoolean context f [x, y]) :
    (r.overBags context uri op f a b).Tells
      (outer.Ranges (fun x => inner.Ranges (fun y => r.IsTrue context f [x, y]) b.values)
        a.values) := by
  rw [overBags_eq_settled r context uri hop]
  refine Outcome.tells_boolean (exists_settled fun x hx => ?_)
  exact exists_settled fun y hy => exists_test (hf x hx y hy)

/-- Where the function is boolean, the quantifiers say what they mean, the outer one over the first
bag and the inner one over the second; those over one bag put the fixed values before each of its
members. In any case the outcome is that of going through the first bag in order and, for each of
its members, through the second, where each quantifier ends at the first result that settles it or
that is an error. -/
theorem quantifiers_mean (f : FunctionRef) (a b : Bag) (fixed : List Value) :
    ((∀ x ∈ a.values, ∀ y ∈ b.values, r.IsBoolean context f [x, y]) →
      (r.overBags context uri .allOfAny f a b).Tells
        (∀ x ∈ a.values, ∃ y ∈ b.values, r.IsTrue context f [x, y]) ∧
      (r.overBags context uri .anyOfAll f a b).Tells
        (∃ x ∈ a.values, ∀ y ∈ b.values, r.IsTrue context f [x, y]) ∧
      (r.overBags context uri .allOfAll f a b).Tells
        (∀ x ∈ a.values, ∀ y ∈ b.values, r.IsTrue context f [x, y])) ∧
    ((∀ y ∈ b.values, r.IsBoolean context f (fixed ++ [y])) →
      (r.overBag context uri .anyOf f fixed b).Tells
        (∃ y ∈ b.values, r.IsTrue context f (fixed ++ [y])) ∧
      (r.overBag context uri .allOf f fixed b).Tells
        (∀ y ∈ b.values, r.IsTrue context f (fixed ++ [y]))) ∧
    (∀ op outer inner, op.nesting? = some (outer, inner) →
      r.overBags context uri op f a b = .boolean <$> outer.settled (a.values.map fun x =>
        inner.settled (b.values.map fun y => test (r.call context) f [x, y]))) ∧
    ∀ op q, op.quantifier? = some q →
      r.overBag context uri op f fixed b = .boolean <$>
        q.settled (b.values.map fun y => test (r.call context) f (fixed ++ [y])) := by
  refine ⟨fun hf => ⟨?_, ?_, ?_⟩, fun hf => ⟨?_, ?_⟩, ?_, ?_⟩
  · exact r.tells_overBags context uri (rfl : allOfAny.nesting? = some (.all, .any)) hf
  · exact r.tells_overBags context uri (rfl : anyOfAll.nesting? = some (.any, .all)) hf
  · exact r.tells_overBags context uri (rfl : allOfAll.nesting? = some (.all, .all)) hf
  · exact r.tells_overBag context uri (rfl : anyOf.quantifier? = some .any) hf
  · exact r.tells_overBag context uri (rfl : allOf.quantifier? = some .all) hf
  · exact fun op outer inner hop => r.overBags_eq_settled context uri hop
  · exact fun op q hop => r.overBag_eq_settled context uri hop

def integerLessThan : FunctionRef :=
  ⟨StandardFunction.namespace1 ++ "integer-less-than", .standard (.compare .integer .lessThan)⟩

def smallIntegers : Bag := ⟨.integer, [.integer 1, .integer 2]⟩

def largeIntegers : Bag := ⟨.integer, [.integer 2, .integer 10]⟩

lemma isBoolean_integerLessThan (m n : Int) :
    standard.IsBoolean .blank integerLessThan [.integer m, .integer n] :=
  ⟨_, rfl⟩

/-- Each small integer is less than some large one, but not all are less than all. Not every large
integer is greater than 5. -/
theorem quantifiers_mean_lessThan :
    (∀ x ∈ smallIntegers.values, ∀ y ∈ largeIntegers.values,
      standard.IsBoolean .blank integerLessThan [x, y]) ∧
    (∀ y ∈ largeIntegers.values,
      standard.IsBoolean .blank integerLessThan ([.integer 5] ++ [y])) ∧
    (∀ x ∈ smallIntegers.values, ∃ y ∈ largeIntegers.values,
      standard.IsTrue .blank integerLessThan [x, y]) ∧
    (¬ ∀ x ∈ smallIntegers.values, ∀ y ∈ largeIntegers.values,
      standard.IsTrue .blank integerLessThan [x, y]) ∧
    ¬ ∀ y ∈ largeIntegers.values,
      standard.IsTrue .blank integerLessThan ([.integer 5] ++ [y]) := by
  have hboolean : ∀ x ∈ smallIntegers.values, ∀ y ∈ largeIntegers.values,
      standard.IsBoolean .blank integerLessThan [x, y] := by
    simp [smallIntegers, largeIntegers, isBoolean_integerLessThan]
  have hfixed : ∀ y ∈ largeIntegers.values,
      standard.IsBoolean .blank integerLessThan ([.integer 5] ++ [y]) := by
    simp [largeIntegers, isBoolean_integerLessThan]
  obtain ⟨htwice, honce, -⟩ := quantifiers_mean standard .blank "" integerLessThan
    smallIntegers largeIntegers [.integer 5]
  obtain ⟨⟨b, hb, hallOfAny⟩, -, ⟨c, hc, hallOfAll⟩⟩ := htwice hboolean
  obtain ⟨-, d, hd, hallOf⟩ := honce hfixed
  cases hb
  cases hc
  cases hd
  refine ⟨hboolean, hfixed, hallOfAny.mp rfl, fun h => ?_, fun h => ?_⟩
  · exact Bool.false_ne_true (hallOfAll.mpr h)
  · exact Bool.false_ne_true (hallOf.mpr h)

end FunctionRegistry

end PolicyDecision
