import PolicyDecision.Function.Registry
import Mathlib.Tactic.Common

/-! Calls of functions without a bound on the functions run within functions. A function that was
given as an argument is run on plain values, and among these there is no function to be run. -/

namespace PolicyDecision

namespace Arguments

variable {values : List Value} {i : ℕ}

lemma functionAt_plain (f : FunctionRef) : functionAt (values.map .value) i ≠ .ok f := by
  unfold functionAt pick
  cases h : (values.map Evaluated.value)[i]? with
  | none => simp
  | some arg =>
    obtain ⟨v, -, rfl⟩ := List.mem_map.mp (List.mem_of_getElem? h)
    simp

end Arguments

namespace HigherOrder

variable {invoke invoke' : Invoke} {args : Arguments}

/-- Only the function among the arguments is run, and only on plain values. -/
lemma test_congr {f : FunctionRef}
    (h : ∀ values : List Value, invoke f (values.map .value) = invoke' f (values.map .value)) :
    test invoke f = test invoke' f := by
  funext values
  rw [test, test, h]

lemma apply_congr {f : FunctionRef}
    (h : ∀ values : List Value, invoke f (values.map .value) = invoke' f (values.map .value)) :
    apply invoke f = apply invoke' f := by
  funext values
  rw [apply, apply, h]

/-- The function that is applied is the first argument. -/
lemma functionAt_of_application {app : Application} (h : application args = .ok app) :
    args.functionAt 0 = .ok app.function := by
  unfold application at h
  cases hcount : args.expectAtLeast 2 with
  | error e =>
    rw [hcount] at h
    cases h
  | ok _ =>
    cases hf : args.functionAt 0 with
    | error e =>
      rw [hcount, hf] at h
      cases h
    | ok f =>
      rw [hcount, hf] at h
      simp only [bind, Except.bind] at h
      split at h
      · cases h
      · split at h
        · cases h
        · cases h
          rfl

section Congruence

variable (h : ∀ f, args.functionAt 0 = .ok f → ∀ values : List Value,
  invoke f (values.map .value) = invoke' f (values.map .value))
include h

lemma quantify_congr (q : Quantifier) : quantify invoke q args = quantify invoke' q args := by
  unfold quantify
  cases happ : application args with
  | error e => rfl
  | ok app =>
    have htest := test_congr (h _ (functionAt_of_application happ))
    simp only [bind, Except.bind, htest]

lemma mapBag_congr : mapBag invoke args = mapBag invoke' args := by
  unfold mapBag
  cases happ : application args with
  | error e => rfl
  | ok app =>
    have happly := apply_congr (h _ (functionAt_of_application happ))
    simp only [bind, Except.bind, happly]

lemma quantifyProduct_congr : quantifyProduct invoke args = quantifyProduct invoke' args := by
  unfold quantifyProduct
  cases args.expectAtLeast 2 with
  | error e => rfl
  | ok _ =>
    cases hf : args.functionAt 0 with
    | error e => rfl
    | ok f => simp only [bind, Except.bind, test_congr (h f hf)]

lemma quantifyTwice_congr (outer inner : Quantifier) :
    quantifyTwice invoke outer inner args = quantifyTwice invoke' outer inner args := by
  unfold quantifyTwice
  cases args.expectCount 3 with
  | error e => rfl
  | ok _ =>
    cases hf : args.functionAt 0 with
    | error e => rfl
    | ok f => simp only [bind, Except.bind, test_congr (h f hf)]

/-- Two ways to run functions make no difference to a higher-order function if they agree on its
first argument, applied to plain values. -/
theorem call_congr (op : HigherOrder) : op.call invoke args = op.call invoke' args := by
  unfold call
  rw [quantify_congr h, quantify_congr h, mapBag_congr h, quantifyProduct_congr h,
    quantifyTwice_congr h, quantifyTwice_congr h, quantifyTwice_congr h]

end Congruence

end HigherOrder

lemma StandardFunction.call_congr {invoke invoke' : Invoke} {args : Arguments}
    (h : ∀ f, args.functionAt 0 = .ok f → ∀ values : List Value,
      invoke f (values.map .value) = invoke' f (values.map .value))
    (context : FunctionContext) (f : StandardFunction) :
    f.call invoke context args = f.call invoke' context args := by
  cases f with
  | higherOrder op => exact op.call_congr h
  | _ => rfl

namespace Callee

variable (custom : List CustomFunction) (context : FunctionContext)

/-- A function that is applied to plain values runs no other function, so no bound is met. -/
lemma callWithin_plain (depth depth' : ℕ) (c : Callee) (values : List Value) :
    c.callWithin custom context depth (values.map .value) =
      c.callWithin custom context depth' (values.map .value) := by
  cases c with
  | registered number => cases depth <;> cases depth' <;> rfl
  | standard f =>
    cases depth <;> cases depth' <;>
      exact f.call_congr (fun g hg => absurd hg (Arguments.functionAt_plain g)) context

/-- A standard function may run any function by the same means. -/
theorem call_standard (f : StandardFunction) (args : Arguments) :
    (standard f).call custom context args =
      f.call (fun g => g.callee.call custom context) context args :=
  f.call_congr (fun g _ values => callWithin_plain custom context 0 1 g.callee values) context

/-- The call of a function with all the calls that it leads to. A registered function answers by
itself. A standard one may run its first argument on plain values, and on nothing else. -/
inductive Returns : Callee → Arguments → Outcome Evaluated → Prop
  | registered (number : ℕ) (args : Arguments) :
      Returns (.registered number) args ((Callee.registered number).call custom context args)
  | standard (f : StandardFunction) {args : Arguments} (invoke : Invoke)
      (invoked : ∀ g, args.functionAt 0 = .ok g → ∀ values : List Value,
        Returns g.callee (values.map .value) (invoke g (values.map .value))) :
      Returns (.standard f) args (f.call invoke context args)

/-- Every call returns, and it returns what the bounded one does. -/
theorem returns_call (c : Callee) (args : Arguments) :
    c.Returns custom context args (c.call custom context args) := by
  have hplain : ∀ (c : Callee) (values : List Value), c.Returns custom context
      (values.map .value) (c.call custom context (values.map .value)) := by
    intro c values
    cases c with
    | registered number => exact .registered number _
    | standard f =>
      rw [call_standard]
      exact .standard f _ fun g hg => absurd hg (Arguments.functionAt_plain g)
  cases c with
  | registered number => exact .registered number args
  | standard f =>
    rw [call_standard]
    exact .standard f _ fun g _ values => hplain g.callee values

/-- A call returns one outcome only. -/
theorem Returns.eq_call {c : Callee} {args : Arguments} {outcome : Outcome Evaluated}
    (h : c.Returns custom context args outcome) : outcome = c.call custom context args := by
  induction h with
  | registered number args => rfl
  | standard f invoke _ ih =>
    rw [call_standard]
    exact f.call_congr ih context

end Callee

/-- In this context there are no attributes. -/
def FunctionContext.blank : FunctionContext := ⟨.v3_0, { values := fun _ => .ok [] }⟩

/-- A standard function runs the functions that it is given as the registry does. -/
theorem FunctionRegistry.call_standard (r : FunctionRegistry) (context : FunctionContext)
    (uri : String) (f : StandardFunction) (args : Arguments) :
    r.call context ⟨uri, .standard f⟩ args = f.call (r.call context) context args :=
  Callee.call_standard r.custom context f args

end PolicyDecision
