import PolicyDecision.Proofs.Attributes.Paths
import PolicyDecision.Proofs.Error
import PolicyDecision.Proofs.Stateful

/-! The errors of the standard functions are explicit. -/

namespace PolicyDecision

open Stateful

/-- An outcome whose error, if it is one, is explicit. -/
abbrev Explicit {α : Type} (x : Outcome α) : Prop := Errors (fun e => e.isExplicit = true) x

namespace Arguments

variable (args : Arguments) (i : ℕ)

lemma explicit_expectCount (n : ℕ) : Explicit (args.expectCount n) := by
  unfold expectCount
  split
  · exact errors_ok _
  · exact errors_error rfl

lemma explicit_expectAtLeast (n : ℕ) : Explicit (args.expectAtLeast n) := by
  unfold expectAtLeast
  split
  · exact errors_ok _
  · exact errors_error rfl

lemma explicit_pick {α : Type} (expected : Expected) (select : Evaluated → Option α) :
    Explicit (args.pick i expected select) := by
  unfold pick
  cases args[i]? with
  | none => exact errors_error rfl
  | some arg =>
    cases hselect : select arg with
    | none =>
      simp only [hselect]
      exact errors_error rfl
    | some a =>
      simp only [hselect]
      exact errors_ok a

lemma explicit_valueAt : Explicit (args.valueAt i) := args.explicit_pick i _ _

lemma explicit_booleanAt : Explicit (args.booleanAt i) := args.explicit_pick i _ _

lemma explicit_integerAt : Explicit (args.integerAt i) := args.explicit_pick i _ _

lemma explicit_doubleAt : Explicit (args.doubleAt i) := args.explicit_pick i _ _

lemma explicit_stringAt : Explicit (args.stringAt i) := args.explicit_pick i _ _

lemma explicit_bagAt (type : DataType) : Explicit (args.bagAt type i) := args.explicit_pick i _ _

lemma explicit_anyBagAt : Explicit (args.anyBagAt i) := args.explicit_pick i _ _

lemma explicit_functionAt : Explicit (args.functionAt i) := args.explicit_pick i _ _

lemma explicit_typedAt (type : DataType) : Explicit (args.typedAt type i) := by
  refine errors_bind (args.explicit_valueAt i) fun v => ?_
  split
  · exact errors_ok v
  · exact errors_error rfl

end Arguments

namespace Arithmetic

variable (args : Arguments)

lemma explicit_checked (n : Int) : Explicit (checked n) := by
  unfold checked
  split
  · exact errors_ok n
  · exact errors_error rfl

lemma explicit_foldIntegers {op : Int → Int → Outcome Int} (hop : ∀ a b, Explicit (op a b)) :
    Explicit (foldIntegers op args) := by
  refine errors_bind (args.explicit_expectAtLeast 2) fun _ => ?_
  refine errors_bind (args.explicit_integerAt 0) fun n => errors_foldlM (fun n i _ => ?_) n
  exact errors_bind (args.explicit_integerAt i) fun m => hop n m

lemma explicit_foldDoubles (op : Float → Float → Float) : Explicit (foldDoubles op args) := by
  refine errors_bind (args.explicit_expectAtLeast 2) fun _ => ?_
  refine errors_bind (args.explicit_doubleAt 0) fun d => errors_foldlM (fun d i _ => ?_) d
  exact errors_bind (args.explicit_doubleAt i) fun _ => errors_ok _

lemma explicit_remainder (a b : Int) : Explicit (remainder a b) :=
  errors_bind (explicit_checked _) fun _ => errors_ok _

lemma explicit_divideWith {op : Int → Int → Outcome Int} (hop : ∀ a b, Explicit (op a b)) :
    Explicit (divideWith op args) := by
  refine errors_bind (args.explicit_expectCount 2) fun _ => ?_
  refine errors_bind (args.explicit_integerAt 1) fun divisor => ?_
  split
  · exact errors_bind (errors_error rfl) fun _ => explicit_foldIntegers args hop
  · exact explicit_foldIntegers args hop

lemma explicit_divideDoubles : Explicit (divideDoubles args) := by
  refine errors_bind (args.explicit_expectCount 2) fun _ => ?_
  refine errors_bind (args.explicit_doubleAt 1) fun divisor => ?_
  have hquotient : Explicit (do return (← args.doubleAt 0) / divisor) :=
    errors_bind (args.explicit_doubleAt 0) fun _ => errors_ok _
  split
  · exact errors_bind (errors_error rfl) fun _ => hquotient
  · exact hquotient

lemma explicit_toInteger (d : Float) : Explicit (toInteger d) := by
  unfold toInteger
  split
  · exact errors_mapError_of (fun _ _ => rfl) (explicit_checked _)
  · exact errors_error rfl

lemma explicit_call (op : Arithmetic) : Explicit (op.call args) := by
  have honInteger : ∀ f : Int → Outcome Value, (∀ n, Explicit (f n)) → Explicit (do
      args.expectCount 1
      f (← args.integerAt 0)) := fun f hf =>
    errors_bind (args.explicit_expectCount 1) fun _ => errors_bind (args.explicit_integerAt 0) hf
  have honDouble : ∀ f : Float → Outcome Value, (∀ d, Explicit (f d)) → Explicit (do
      args.expectCount 1
      f (← args.doubleAt 0)) := fun f hf =>
    errors_bind (args.explicit_expectCount 1) fun _ => errors_bind (args.explicit_doubleAt 0) hf
  refine errors_map _ ?_
  cases op with
  | integerAdd => exact errors_map _ (explicit_foldIntegers args fun _ _ => explicit_checked _)
  | integerMultiply => exact errors_map _ (explicit_foldIntegers args fun _ _ => explicit_checked _)
  | integerSubtract =>
    exact errors_bind (args.explicit_expectCount 2) fun _ =>
      errors_map _ (explicit_foldIntegers args fun _ _ => explicit_checked _)
  | integerDivide => exact errors_map _ (explicit_divideWith args fun _ _ => explicit_checked _)
  | integerMod => exact errors_map _ (explicit_divideWith args explicit_remainder)
  | integerAbs => exact honInteger _ fun n => errors_map _ (explicit_checked _)
  | doubleAdd => exact errors_map _ (explicit_foldDoubles args _)
  | doubleMultiply => exact errors_map _ (explicit_foldDoubles args _)
  | doubleSubtract =>
    exact errors_bind (args.explicit_expectCount 2) fun _ =>
      errors_map _ (explicit_foldDoubles args _)
  | doubleDivide => exact errors_map _ (explicit_divideDoubles args)
  | doubleAbs => exact honDouble _ fun _ => errors_ok _
  | round => exact honDouble _ fun _ => errors_ok _
  | floor => exact honDouble _ fun _ => errors_ok _
  | integerToDouble => exact honInteger _ fun _ => errors_ok _
  | doubleToInteger => exact honDouble _ fun d => errors_map _ (explicit_toInteger d)

end Arithmetic

namespace Connective

variable (args : Arguments)

lemma explicit_seek (decisive : Bool) (is : List ℕ) : Explicit (seek args decisive is) := by
  induction is with
  | nil => exact errors_ok _
  | cons i is ih =>
    refine errors_bind (args.explicit_booleanAt i) fun b => ?_
    split
    · exact errors_ok _
    · exact ih

lemma explicit_seekCount (required found : ℕ) (is : List ℕ) :
    Explicit (seekCount args required found is) := by
  induction is generalizing found with
  | nil => exact errors_ok _
  | cons i is ih =>
    unfold seekCount
    split
    · exact errors_ok _
    · exact errors_bind (args.explicit_booleanAt i) fun b => ih _

lemma explicit_atLeast : Explicit (atLeast args) := by
  refine errors_bind (args.explicit_expectAtLeast 1) fun _ => ?_
  refine errors_bind (args.explicit_integerAt 0) fun n => ?_
  have hseek := explicit_seekCount args n.toNat 0 (args.indicesFrom 1)
  have hcount : Explicit (do
      if args.length - 1 < n.toNat then throw (.countTooLarge n.toNat (args.length - 1))
      seekCount args n.toNat 0 (args.indicesFrom 1)) := by
    split
    · exact errors_bind (errors_error rfl) fun _ => hseek
    · exact hseek
  split
  · exact errors_bind (errors_error rfl) fun _ => hcount
  · exact hcount

lemma explicit_call (op : Connective) : Explicit (op.call args) := by
  refine errors_map _ ?_
  cases op with
  | or => exact explicit_seek args _ _
  | and => exact explicit_seek args _ _
  | not =>
    exact errors_bind (args.explicit_expectCount 1) fun _ =>
      errors_bind (args.explicit_booleanAt 0) fun _ => errors_ok _
  | nOf => exact explicit_atLeast args

end Connective

namespace Comparison

lemma explicit_call (op : Comparison) (type : DataType) (args : Arguments) :
    Explicit (op.call type args) :=
  errors_bind (args.explicit_expectCount 2) fun _ =>
    errors_bind (args.explicit_typedAt 0 type) fun _ =>
      errors_bind (args.explicit_typedAt 1 type) fun _ => errors_ok _

end Comparison

namespace BagOperation

lemma explicit_call (op : BagOperation) (type : DataType) (args : Arguments) :
    Explicit (op.call type args) := by
  cases op with
  | oneAndOnly =>
    refine errors_bind (args.explicit_expectCount 1) fun _ => ?_
    refine errors_bind (args.explicit_bagAt 0 type) fun b => ?_
    split
    · exact errors_ok _
    · exact errors_error rfl
  | size =>
    exact errors_bind (args.explicit_expectCount 1) fun _ =>
      errors_bind (args.explicit_bagAt 0 type) fun _ => errors_ok _
  | isIn =>
    exact errors_bind (args.explicit_expectCount 2) fun _ =>
      errors_bind (args.explicit_typedAt 0 type) fun _ =>
        errors_bind (args.explicit_bagAt 1 type) fun _ => errors_ok _
  | make =>
    exact errors_bind (errors_mapM fun i _ => args.explicit_typedAt i type) fun _ => errors_ok _

end BagOperation

namespace SetOperation

lemma explicit_call (op : SetOperation) (type : DataType) (args : Arguments) :
    Explicit (op.call type args) :=
  errors_bind (args.explicit_expectCount 2) fun _ =>
    errors_bind (args.explicit_bagAt 0 type) fun _ =>
      errors_bind (args.explicit_bagAt 1 type) fun _ => errors_ok _

end SetOperation

namespace Shift

lemma explicit_call (s : Shift) (direction : Direction) (args : Arguments) :
    Explicit (s.call direction args) := by
  refine errors_bind (args.explicit_expectCount 2) fun _ => ?_
  refine errors_bind (args.explicit_typedAt 0 _) fun base => ?_
  refine errors_bind (args.explicit_typedAt 1 _) fun duration => ?_
  split
  · exact errors_ok _
  · exact errors_error rfl

end Shift

namespace HigherOrder

variable {invoke : Invoke} (hinvoke : ∀ f args, Explicit (invoke f args)) (args : Arguments)

lemma explicit_application : Explicit (application args) :=
  errors_bind (args.explicit_expectAtLeast 2) fun _ =>
    errors_bind (args.explicit_functionAt 0) fun _ =>
      errors_bind (errors_mapM fun i _ => args.explicit_valueAt i) fun _ =>
        errors_bind (args.explicit_anyBagAt _) fun _ => errors_ok _

lemma explicit_along {holds : Value → Outcome Bool} (hholds : ∀ v, Explicit (holds v))
    (q : Quantifier) (values : List Value) : Explicit (q.along holds values) := by
  induction values with
  | nil => exact errors_ok _
  | cons v vs ih =>
    refine errors_bind (hholds v) fun b => ?_
    cases q <;> cases b <;> first | exact errors_ok _ | exact ih

lemma explicit_search {columns : List (List Value)} {holds : List Value → Outcome Bool}
    (hholds : ∀ vs, Explicit (holds vs)) (c : Cursor columns) : Explicit (c.search holds) := by
  induction hleft : Cursor.left columns c.places using Nat.strongRecOn generalizing c with
  | ind n ih =>
    rw [Cursor.search]
    refine errors_bind (hholds _) fun b => ?_
    split
    · exact errors_ok _
    · split
      case h_1 => exact errors_ok _
      case h_2 next hnext => exact ih _ (hleft ▸ Cursor.left_next hnext) next rfl

lemma explicit_column (v : Evaluated) : Explicit (column v) := by
  cases v with
  | value v => exact errors_ok _
  | bag b => exact errors_ok _
  | function f => exact errors_error rfl

include hinvoke

lemma explicit_test (f : FunctionRef) (values : List Value) : Explicit (test invoke f values) := by
  refine errors_bind (hinvoke f _) fun v => ?_
  split
  · exact errors_ok _
  · exact errors_error rfl

lemma explicit_apply (f : FunctionRef) (values : List Value) : Explicit (apply invoke f values) := by
  refine errors_bind (hinvoke f _) fun v => ?_
  split
  · exact errors_ok _
  · exact errors_error rfl

lemma explicit_quantify (q : Quantifier) : Explicit (quantify invoke q args) :=
  errors_bind (explicit_application args) fun app =>
    explicit_along (fun _ => explicit_test hinvoke _ _) q app.bag.values

lemma explicit_mapBag : Explicit (mapBag invoke args) :=
  errors_bind (explicit_application args) fun _ =>
    errors_bind (errors_mapM fun _ _ => explicit_apply hinvoke _ _) fun _ => errors_ok _

lemma explicit_quantifyProduct : Explicit (quantifyProduct invoke args) :=
  errors_bind (args.explicit_expectAtLeast 2) fun _ =>
    errors_bind (args.explicit_functionAt 0) fun f =>
      errors_bind (errors_mapM fun v _ => explicit_column v) fun columns => by
        split
        · exact errors_ok _
        · exact explicit_search (explicit_test hinvoke f) _

lemma explicit_quantifyTwice (outer inner : Quantifier) :
    Explicit (quantifyTwice invoke outer inner args) :=
  errors_bind (args.explicit_expectCount 3) fun _ =>
    errors_bind (args.explicit_functionAt 0) fun f =>
      errors_bind (args.explicit_anyBagAt 1) fun first =>
        errors_bind (args.explicit_anyBagAt 2) fun second =>
          explicit_along (fun _ => explicit_along (fun _ => explicit_test hinvoke f _) inner
            second.values) outer first.values

lemma explicit_call (op : HigherOrder) : Explicit (op.call invoke args) := by
  cases op with
  | map => exact errors_map _ (explicit_mapBag hinvoke args)
  | anyOfAny => exact errors_map _ (explicit_quantifyProduct hinvoke args)
  | anyOf => exact errors_map _ (explicit_quantify hinvoke args _)
  | allOf => exact errors_map _ (explicit_quantify hinvoke args _)
  | allOfAny => exact errors_map _ (explicit_quantifyTwice hinvoke args _ _)
  | anyOfAll => exact errors_map _ (explicit_quantifyTwice hinvoke args _ _)
  | allOfAll => exact errors_map _ (explicit_quantifyTwice hinvoke args _ _)

end HigherOrder

namespace StandardFunction

section

variable (args : Arguments)

lemma explicit_equal (type : DataType) : Explicit (callEqual type args) :=
  errors_bind (args.explicit_expectCount 2) fun _ =>
    errors_bind (args.explicit_typedAt 0 type) fun _ =>
      errors_bind (args.explicit_typedAt 1 type) fun _ => errors_ok _

lemma explicit_equalIgnoringCase : Explicit (callEqualIgnoringCase args) :=
  errors_bind (args.explicit_expectCount 2) fun _ =>
    errors_bind (args.explicit_stringAt 0) fun _ =>
      errors_bind (args.explicit_stringAt 1) fun _ => errors_ok _

lemma explicit_union (type : DataType) : Explicit (callUnion type args) :=
  errors_bind (args.explicit_expectAtLeast 2) fun _ =>
    errors_bind (errors_mapM fun i _ => args.explicit_bagAt i type) fun _ => errors_ok _

lemma explicit_timeAt (i : Nat) : Explicit (timeAt args i) := by
  refine errors_bind (args.explicit_typedAt i .time) fun v => ?_
  split
  · exact errors_ok _
  · exact errors_error rfl

lemma explicit_timeInRange : Explicit (callTimeInRange args) :=
  errors_bind (args.explicit_expectCount 3) fun _ =>
    errors_bind (explicit_timeAt args 0) fun _ =>
      errors_bind (explicit_timeAt args 1) fun _ =>
        errors_bind (explicit_timeAt args 2) fun _ => errors_ok _

lemma explicit_concatenate : Explicit (callConcatenate args) :=
  errors_bind (args.explicit_expectAtLeast 2) fun _ =>
    errors_bind (errors_mapM fun i _ => args.explicit_stringAt i) fun _ => errors_ok _

lemma explicit_normalizeSpace : Explicit (callNormalizeSpace args) :=
  errors_bind (args.explicit_expectCount 1) fun _ =>
    errors_bind (args.explicit_stringAt 0) fun _ => errors_ok _

lemma explicit_normalizeToLowerCase : Explicit (callNormalizeToLowerCase args) :=
  errors_bind (args.explicit_expectCount 1) fun _ =>
    errors_bind (args.explicit_stringAt 0) fun _ => errors_ok _

lemma explicit_occurs (haystack : DataType) (position : Position) :
    Explicit (callOccurs haystack position args) :=
  errors_bind (args.explicit_expectCount 2) fun _ =>
    errors_bind (args.explicit_stringAt 0) fun _ =>
      errors_bind (args.explicit_typedAt 1 haystack) fun _ => errors_ok _

lemma explicit_substring (type : DataType) : Explicit (callSubstring type args) := by
  refine errors_bind (args.explicit_expectCount 3) fun _ => ?_
  refine errors_bind (args.explicit_typedAt 0 type) fun _ => ?_
  refine errors_bind (args.explicit_integerAt 1) fun _ => ?_
  refine errors_bind (args.explicit_integerAt 2) fun _ => ?_
  split
  · exact errors_ok _
  · exact errors_error rfl

lemma explicit_fromString (type : DataType) : Explicit (callFromString type args) := by
  refine errors_bind (args.explicit_expectCount 1) fun _ => ?_
  refine errors_bind (args.explicit_stringAt 0) fun text => errors_map _ ?_
  cases Value.read type text with
  | ok v => exact errors_ok v
  | error e => exact errors_error rfl

lemma explicit_toString (type : DataType) : Explicit (callToString type args) :=
  errors_bind (args.explicit_expectCount 1) fun _ =>
    errors_bind (args.explicit_typedAt 0 type) fun _ => errors_ok _

lemma explicit_matchesPattern (type : DataType) : Explicit (callMatchesPattern type args) := by
  refine errors_bind (args.explicit_expectCount 2) fun _ => ?_
  refine errors_bind (args.explicit_stringAt 0) fun _ => ?_
  refine errors_bind (args.explicit_typedAt 1 type) fun _ => ?_
  split
  · split
    · exact errors_error rfl
    · exact errors_ok _
  · exact errors_error rfl

lemma explicit_x500NameMatch : Explicit (callX500NameMatch args) := by
  refine errors_bind (args.explicit_expectCount 2) fun _ => ?_
  refine errors_bind (args.explicit_typedAt 0 _) fun _ => ?_
  refine errors_bind (args.explicit_typedAt 1 _) fun _ => ?_
  split
  · exact errors_ok _
  · exact errors_error rfl

lemma explicit_rfc822NameMatch : Explicit (callRfc822NameMatch args) := by
  refine errors_bind (args.explicit_expectCount 2) fun _ => ?_
  refine errors_bind (args.explicit_stringAt 0) fun _ => ?_
  refine errors_bind (args.explicit_typedAt 1 _) fun _ => ?_
  split
  · exact errors_ok _
  · exact errors_error rfl

/-- A source could refuse a path in its own words; one without paths does so explicitly. -/
lemma explicit_nodeCount {context : FunctionContext} (h : context.source.Pathless) :
    Explicit (callNodeCount context args) := by
  refine errors_bind (args.explicit_expectCount 1) fun _ => ?_
  refine errors_bind (args.explicit_valueAt 0) fun v => ?_
  split
  · simp only [h _]
    exact errors_error rfl
  · exact errors_error rfl

end

theorem explicit_call {invoke : Invoke} (hinvoke : ∀ f args, Explicit (invoke f args))
    {context : FunctionContext} (h : context.source.Pathless) (f : StandardFunction)
    (args : Arguments) : Explicit (f.call invoke context args) := by
  cases f with
  | equal type => exact explicit_equal args type
  | equalIgnoringCase => exact explicit_equalIgnoringCase args
  | arithmetic op => exact op.explicit_call args
  | logical op => exact op.explicit_call args
  | compare type op => exact op.explicit_call type args
  | timeInRange => exact explicit_timeInRange args
  | shift s direction => exact s.explicit_call direction args
  | bag type op => exact op.explicit_call type args
  | set type op => exact op.explicit_call type args
  | union type => exact explicit_union args type
  | higherOrder op => exact op.explicit_call hinvoke args
  | concatenate => exact explicit_concatenate args
  | normalizeSpace => exact explicit_normalizeSpace args
  | normalizeToLowerCase => exact explicit_normalizeToLowerCase args
  | occurs haystack position => exact explicit_occurs args haystack position
  | substring type => exact explicit_substring args type
  | fromString type => exact explicit_fromString args type
  | toString type => exact explicit_toString args type
  | matchesPattern type => exact explicit_matchesPattern args type
  | x500NameMatch => exact explicit_x500NameMatch args
  | rfc822NameMatch => exact explicit_rfc822NameMatch args
  | nodeCount => exact explicit_nodeCount args h

end StandardFunction

/-- A number under which no function is registered is reported as well. -/
lemma Callee.explicit_callWithin {context : FunctionContext} (h : context.source.Pathless)
    (depth : Nat) (c : Callee) (args : Arguments) :
    Explicit (c.callWithin [] context depth args) := by
  induction depth generalizing c args with
  | zero =>
    cases c with
    | standard f => exact f.explicit_call (fun _ _ => errors_error rfl) h args
    | registered number => exact errors_error rfl
  | succ depth ih =>
    cases c with
    | standard f => exact f.explicit_call (fun g => ih g.callee) h args
    | registered number => exact errors_error rfl

/-- Whatever the standard functions are given, they say what is wrong with it. -/
theorem FunctionRegistry.explicit_call {context : FunctionContext} (h : context.source.Pathless)
    (f : FunctionRef) (args : Arguments) : Explicit (standard.call context f args) :=
  f.callee.explicit_callWithin h 1 args

end PolicyDecision
