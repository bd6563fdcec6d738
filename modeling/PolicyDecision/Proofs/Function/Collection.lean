import PolicyDecision.Proofs.Function.Argument
import PolicyDecision.Proofs.Termination.Function

/-! Calls of the functions on values and bags of one type. -/

namespace PolicyDecision.FunctionRegistry

open Stateful Arguments

variable (r : FunctionRegistry) (context : FunctionContext) (uri : String)
  {type : DataType} {a b : Bag} {v w : Value}

lemma call_equal (hv : v.type = type) (hw : w.type = type) :
    r.call context ⟨uri, .standard (.equal type)⟩ [.value v, .value w] =
      .ok (.boolean (v.same w)) := by
  have hfirst : typedAt [.value v, .value w] type 0 = .ok v := typedAt_eq_ok.mpr ⟨rfl, hv⟩
  have hsecond : typedAt [.value v, .value w] type 1 = .ok w := typedAt_eq_ok.mpr ⟨rfl, hw⟩
  rw [call_standard, StandardFunction.call, StandardFunction.callEqual, hfirst, hsecond]
  rfl

lemma call_size (hb : b.type = type) :
    r.call context ⟨uri, .standard (.bag type .size)⟩ [.bag b] = .ok (.integer b.size) := by
  have hbag : bagAt [.bag b] type 0 = .ok b := bagAt_eq_ok.mpr ⟨rfl, hb⟩
  rw [call_standard, StandardFunction.call, BagOperation.call, hbag]
  rfl

/-- A bag of another type is refused, even if it is empty. -/
lemma call_size_of_ne (hb : b.type ≠ type) :
    r.call context ⟨uri, .standard (.bag type .size)⟩ [.bag b] =
      .error (.argument 0 (.bag type) .bag) := by
  have hbag : bagAt [.bag b] type 0 = .error (.argument 0 (.bag type) .bag) := by
    simp [bagAt, pick, Evaluated.found, hb]
  rw [call_standard, StandardFunction.call, BagOperation.call, hbag]
  rfl

lemma call_isIn (hv : v.type = type) (hb : b.type = type) :
    r.call context ⟨uri, .standard (.bag type .isIn)⟩ [.value v, .bag b] =
      .ok (.boolean (b.contains v)) := by
  have hvalue : typedAt [.value v, .bag b] type 0 = .ok v := typedAt_eq_ok.mpr ⟨rfl, hv⟩
  have hbag : bagAt [.value v, .bag b] type 1 = .ok b := bagAt_eq_ok.mpr ⟨rfl, hb⟩
  rw [call_standard, StandardFunction.call, BagOperation.call, hvalue, hbag]
  rfl

/-- A value of another type is refused. -/
lemma call_isIn_of_ne (hv : v.type ≠ type) :
    r.call context ⟨uri, .standard (.bag type .isIn)⟩ [.value v, .bag b] =
      .error (.argument 0 (.value type) (.value v.type)) := by
  have hvalue : typedAt [.value v, .bag b] type 0 =
      .error (.argument 0 (.value type) (.value v.type)) := if_neg hv
  rw [call_standard, StandardFunction.call, BagOperation.call, hvalue]
  rfl

lemma call_set (op : SetOperation) (ha : a.type = type) (hb : b.type = type) :
    r.call context ⟨uri, .standard (.set type op)⟩ [.bag a, .bag b] = .ok (match op with
      | .intersection => .bag ⟨type, a.distinct.filter b.contains⟩
      | .atLeastOneMemberOf => .boolean (a.values.any b.contains)
      | .subset => .boolean (a.isSubset b)
      | .setEquals => .boolean (a.isSubset b && b.isSubset a)) := by
  have hfirst : bagAt [.bag a, .bag b] type 0 = .ok a := bagAt_eq_ok.mpr ⟨rfl, ha⟩
  have hsecond : bagAt [.bag a, .bag b] type 1 = .ok b := bagAt_eq_ok.mpr ⟨rfl, hb⟩
  rw [call_standard, StandardFunction.call, SetOperation.call, hfirst, hsecond]
  rfl

lemma call_union {bags : List Bag} (hbags : ∀ b ∈ bags, b.type = type)
    (hcount : 2 ≤ bags.length) :
    r.call context ⟨uri, .standard (.union type)⟩ (bags.map .bag) =
      .ok (.bag ⟨type, Bag.distinct ⟨type, bags.flatMap (·.values)⟩⟩) := by
  have hcount : expectAtLeast (bags.map .bag) 2 = .ok () :=
    expectAtLeast_eq_ok.mpr (by simpa using hcount)
  have harguments : (indicesFrom (bags.map .bag) 0).mapM (bagAt (bags.map .bag) type) = .ok bags :=
    (mapM_indicesFrom_zero fun _ _ => bagAt_eq_ok).mpr ⟨rfl, hbags⟩
  rw [call_standard, StandardFunction.call, StandardFunction.callUnion, hcount, harguments]
  rfl

/-- There is no union of fewer than two bags. -/
lemma call_union_of_lt {args : Arguments} (hcount : args.length < 2) :
    r.call context ⟨uri, .standard (.union type)⟩ args =
      .error (.tooFewArguments 2 args.length) := by
  have hcount : expectAtLeast args 2 = .error (.tooFewArguments 2 args.length) :=
    if_neg (Nat.not_le.mpr hcount)
  rw [call_standard, StandardFunction.call, StandardFunction.callUnion, hcount]
  rfl

end PolicyDecision.FunctionRegistry
