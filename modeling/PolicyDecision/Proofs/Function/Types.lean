import PolicyDecision.Function.Call
import PolicyDecision.Proofs.Stateful
import PolicyDecision.Proofs.Value.RoundTrip

/-! The types of what the standard functions yield. Each has one type of its own, except for `map`,
whose results are of the type of the function that it applies. -/

namespace PolicyDecision

open Stateful

/-- Every member is of the type of the bag. -/
def Bag.Homogeneous (b : Bag) : Prop := ∀ v ∈ b.values, v.type = b.type

namespace Bag

lemma mem_of_mem_distinctAfter {v : Value} {kept vs : List Value}
    (h : v ∈ distinctAfter kept vs) : v ∈ vs := by
  induction vs generalizing kept with
  | nil => exact h
  | cons w vs ih =>
    rw [distinctAfter] at h
    split at h
    · exact List.mem_cons_of_mem w (ih h)
    · rcases List.mem_cons.mp h with rfl | h
      · exact List.mem_cons_self
      · exact List.mem_cons_of_mem w (ih h)

end Bag

namespace Evaluated

def Homogeneous : Evaluated → Prop
  | bag b => b.Homogeneous
  | _ => True

/-- A value of the type, or a bag of such values. -/
def HasType (type : DataType) : Evaluated → Prop
  | value v => v.type = type
  | bag b => b.type = type ∧ b.Homogeneous
  | function _ => False

lemma HasType.homogeneous {type : DataType} {e : Evaluated} (h : e.HasType type) :
    e.Homogeneous := by
  cases e with
  | bag b => exact h.2
  | _ => trivial

end Evaluated

open Evaluated

namespace Arithmetic

def resultType : Arithmetic → DataType
  | integerAdd | integerSubtract | integerMultiply | integerDivide | integerMod | integerAbs
  | doubleToInteger => .integer
  | doubleAdd | doubleSubtract | doubleMultiply | doubleDivide | doubleAbs | round | floor
  | integerToDouble => .double

end Arithmetic

def BagOperation.resultType (type : DataType) : BagOperation → DataType
  | oneAndOnly | make => type
  | size => .integer
  | isIn => .boolean

def SetOperation.resultType (type : DataType) : SetOperation → DataType
  | intersection => type
  | atLeastOneMemberOf | subset | setEquals => .boolean

/-- The type of what a function yields, whatever it is given. -/
def StandardFunction.resultType? : StandardFunction → Option DataType
  | equal _ | equalIgnoringCase | logical _ | compare _ _ | timeInRange | occurs _ _
  | matchesPattern _ | x500NameMatch | rfc822NameMatch => some .boolean
  | arithmetic op => some op.resultType
  | shift s _ => some s.base
  | bag type op => some (op.resultType type)
  | set type op => some (op.resultType type)
  | union type | fromString type => some type
  | higherOrder .map => none
  | higherOrder _ => some .boolean
  | concatenate | normalizeSpace | normalizeToLowerCase | substring _ | toString _ => some .string
  | nodeCount => some .integer

namespace Arguments

variable (args : Arguments) (type : DataType) (i : ℕ)

lemma yields_pick {α : Type} (expected : Expected) (select : Evaluated → Option α) :
    Yields (fun a => ∃ arg ∈ args, select arg = some a) (args.pick i expected select) := by
  unfold pick
  split
  case h_1 => exact yields_error _
  case h_2 arg harg =>
    split
    case h_1 a ha => exact yields_ok ⟨arg, List.mem_of_getElem? harg, ha⟩
    case h_2 => exact yields_error _

lemma yields_typedAt : Yields (fun v => v.type = type) (args.typedAt type i) := by
  refine yields_then fun v => ?_
  split
  case isTrue h => exact yields_ok h
  case isFalse => exact yields_error _

lemma yields_bagAt :
    Yields (fun b => .bag b ∈ args ∧ b.type = type) (args.bagAt type i) := by
  intro b hb
  obtain ⟨arg, hmem, hselect⟩ := args.yields_pick i _ _ b hb
  split at hselect
  case h_1 b' =>
    split at hselect
    case isTrue h =>
      cases hselect
      exact ⟨hmem, h⟩
    case isFalse => cases hselect
  case h_2 => cases hselect

end Arguments

variable {args : Arguments}

namespace Arithmetic

lemma hasType_call (op : Arithmetic) : Yields (HasType op.resultType) (op.call args) := by
  refine yields_map ?_
  cases op with
  | integerSubtract | doubleSubtract => exact yields_then fun _ => yields_map fun _ _ => rfl
  | integerAbs | doubleToInteger =>
    exact yields_then fun _ => yields_then fun _ => yields_map fun _ _ => rfl
  | doubleAbs | round | floor | integerToDouble =>
    exact yields_then fun _ => yields_then fun _ => yields_ok rfl
  | _ => exact yields_map fun _ _ => rfl

end Arithmetic

namespace BagOperation

lemma hasType_call (hargs : ∀ a ∈ args, a.Homogeneous) (op : BagOperation) (type : DataType) :
    Yields (HasType (op.resultType type)) (op.call type args) := by
  cases op with
  | oneAndOnly =>
    refine yields_then fun _ => yields_bind (args.yields_bagAt type 0) fun b hb => ?_
    have hmembers : b.Homogeneous := hargs _ hb.1
    split
    case h_1 v hv => exact yields_ok ((hmembers v (hv ▸ List.mem_singleton_self v)).trans hb.2)
    case h_2 => exact yields_error _
  | size => exact yields_then fun _ => yields_then fun _ => yields_ok rfl
  | isIn => exact yields_then fun _ => yields_then fun _ => yields_then fun _ => yields_ok rfl
  | make =>
    exact yields_bind (yields_mapM (args.yields_typedAt type)) fun vs hvs => yields_ok ⟨rfl, hvs⟩

end BagOperation

namespace SetOperation

lemma hasType_call (hargs : ∀ a ∈ args, a.Homogeneous) (op : SetOperation) (type : DataType) :
    Yields (HasType (op.resultType type)) (op.call type args) := by
  refine yields_then fun _ => yields_bind (args.yields_bagAt type 0) fun a ha => ?_
  refine yields_then fun b => yields_ok ?_
  have hmembers : a.Homogeneous := hargs _ ha.1
  cases op with
  | intersection =>
    refine ⟨rfl, fun v hv => (hmembers v ?_).trans ha.2⟩
    exact Bag.mem_of_mem_distinctAfter (List.mem_of_mem_filter hv)
  | _ => rfl

end SetOperation

namespace Shift

lemma hasType_call (s : Shift) (direction : Direction) :
    Yields (HasType s.base) (s.call direction args) := by
  refine yields_then fun _ => yields_bind (args.yields_typedAt s.base 0) fun base hbase => ?_
  refine yields_then fun duration => ?_
  split
  case h_1 v hv =>
    refine yields_ok ?_
    unfold move? at hv
    split at hv <;> cases hv <;> exact hbase
  case h_2 => exact yields_error _

end Shift

namespace StandardFunction

lemma hasType_callUnion (hargs : ∀ a ∈ args, a.Homogeneous) (type : DataType) :
    Yields (HasType type) (callUnion type args) := by
  refine yields_then fun _ => yields_bind (yields_mapM (args.yields_bagAt type)) fun bags hbags => ?_
  refine yields_ok ⟨rfl, fun v hv => ?_⟩
  obtain ⟨b, hb, hv⟩ := List.mem_flatMap.mp (Bag.mem_of_mem_distinctAfter hv)
  have hmembers : b.Homogeneous := hargs _ (hbags b hb).1
  exact (hmembers v hv).trans (hbags b hb).2

lemma hasType_callTimeInRange : Yields (HasType .boolean) (callTimeInRange args) :=
  yields_then fun _ => yields_then fun _ => yields_then fun _ => yields_then fun _ => yields_ok rfl

lemma hasType_callSubstring (type : DataType) :
    Yields (HasType .string) (callSubstring type args) := by
  refine yields_then fun _ => yields_then fun _ => yields_then fun _ => yields_then fun _ => ?_
  split
  · exact yields_ok rfl
  · exact yields_error _

lemma hasType_callFromString (type : DataType) :
    Yields (HasType type) (callFromString type args) := by
  refine yields_then fun _ => yields_then fun text => yields_map fun v hv => ?_
  exact Value.type_of_read (except_mapError_eq_ok.mp hv)

lemma hasType_callMatchesPattern (type : DataType) :
    Yields (HasType .boolean) (callMatchesPattern type args) := by
  refine yields_then fun _ => yields_then fun _ => yields_then fun _ => ?_
  split
  · split
    · exact yields_error _
    · exact yields_ok rfl
  · exact yields_error _

lemma hasType_callX500NameMatch : Yields (HasType .boolean) (callX500NameMatch args) := by
  refine yields_then fun _ => yields_then fun _ => yields_then fun _ => ?_
  split
  · exact yields_ok rfl
  · exact yields_error _

lemma hasType_callRfc822NameMatch : Yields (HasType .boolean) (callRfc822NameMatch args) := by
  refine yields_then fun _ => yields_then fun _ => yields_then fun _ => ?_
  split
  · exact yields_ok rfl
  · exact yields_error _

lemma hasType_callNodeCount (context : FunctionContext) :
    Yields (HasType .integer) (callNodeCount context args) := by
  refine yields_then fun _ => yields_then fun _ => ?_
  split
  · exact yields_then fun _ => yields_ok rfl
  · exact yields_error _

theorem hasType_call (invoke : Invoke) (context : FunctionContext)
    (hargs : ∀ a ∈ args, a.Homogeneous) {f : StandardFunction} {type : DataType}
    (hf : f.resultType? = some type) : Yields (HasType type) (f.call invoke context args) := by
  cases f with
  | arithmetic op =>
    cases hf
    exact op.hasType_call
  | shift s direction =>
    cases hf
    exact s.hasType_call direction
  | bag type op =>
    cases hf
    exact op.hasType_call hargs type
  | set type op =>
    cases hf
    exact op.hasType_call hargs type
  | union type =>
    cases hf
    exact hasType_callUnion hargs type
  | fromString type =>
    cases hf
    exact hasType_callFromString type
  | timeInRange =>
    cases hf
    exact hasType_callTimeInRange
  | substring type =>
    cases hf
    exact hasType_callSubstring type
  | matchesPattern type =>
    cases hf
    exact hasType_callMatchesPattern type
  | x500NameMatch =>
    cases hf
    exact hasType_callX500NameMatch
  | rfc822NameMatch =>
    cases hf
    exact hasType_callRfc822NameMatch
  | nodeCount =>
    cases hf
    exact hasType_callNodeCount context
  | logical op =>
    cases hf
    exact yields_map fun _ _ => rfl
  | higherOrder op =>
    cases op with
    | map => cases hf
    | _ =>
      cases hf
      exact yields_map fun _ _ => rfl
  | equal _ | equalIgnoringCase | compare _ _ | occurs _ _ =>
    cases hf
    exact yields_then fun _ => yields_then fun _ => yields_then fun _ => yields_ok rfl
  | concatenate | normalizeSpace | normalizeToLowerCase | toString _ =>
    cases hf
    exact yields_then fun _ => yields_then fun _ => yields_ok rfl

lemma resultType?_eq_none {f : StandardFunction} (h : f.resultType? = none) :
    f = .higherOrder .map := by
  cases f with
  | higherOrder op => cases op <;> first | rfl | cases h
  | _ => cases h

end StandardFunction

/-- The plain results of a function are of one type, whatever plain values it is applied to. -/
def Invoke.Uniform (invoke : Invoke) : Prop :=
  ∀ f, ∃ type : DataType, ∀ values : List Value,
    Yields (fun e => ∀ v, e = .value v → v.type = type) (invoke f (values.map .value))

/-- The first result tells the type of them all. -/
lemma HigherOrder.homogeneous_mapBag {invoke : Invoke} (hinvoke : invoke.Uniform) :
    Yields Bag.Homogeneous (mapBag invoke args) := by
  refine yields_then fun app => ?_
  obtain ⟨type, htype⟩ := hinvoke app.function
  have happly : ∀ v, Yields (fun w => w.type = type)
      (apply invoke app.function (app.fixed ++ [v])) := by
    intro v
    refine yields_bind (htype _) fun e he => ?_
    split
    case h_1 w => exact yields_ok (he w rfl)
    case h_2 => exact yields_error _
  refine yields_bind (yields_mapM happly) fun results hresults => yields_ok fun w hw => ?_
  cases results with
  | nil => cases hw
  | cons first rest =>
    rw [hresults w hw]
    exact (hresults first List.mem_cons_self).symm

namespace Callee

variable (context : FunctionContext) (depth : ℕ)

lemma exists_callWithin_standard (f : StandardFunction) :
    ∃ invoke, ∀ args, callWithin [] context depth (.standard f) args = f.call invoke context args := by
  cases depth with
  | zero => exact ⟨_, fun _ => rfl⟩
  | succ depth => exact ⟨_, fun _ => rfl⟩

lemma callWithin_registered (number : ℕ) (args : Arguments) :
    callWithin [] context depth (.registered number) args = .error (.missingArgument args.length) := by
  cases depth with
  | zero => rfl
  | succ depth => rfl

/-- The results of `map` are bags. So the one function without a type of its own has no plain
results. -/
lemma uniform_callWithin : Invoke.Uniform fun f => callWithin [] context depth f.callee := by
  rintro ⟨uri, f | number⟩
  · obtain ⟨invoke, hcall⟩ := exists_callWithin_standard context depth f
    simp only [hcall]
    cases htype : f.resultType? with
    | some type =>
      refine ⟨type, fun values e he v hv => ?_⟩
      have hplain : ∀ a ∈ values.map Evaluated.value, a.Homogeneous := by
        intro a ha
        obtain ⟨w, -, rfl⟩ := List.mem_map.mp ha
        trivial
      subst hv
      exact StandardFunction.hasType_call invoke context hplain htype _ he
    | none =>
      obtain rfl := StandardFunction.resultType?_eq_none htype
      exact ⟨.boolean, fun values => yields_map fun b _ v hv => nomatch hv⟩
  · simp only [callWithin_registered]
    exact ⟨.boolean, fun values => yields_error _⟩

lemma homogeneous_call (hargs : ∀ a ∈ args, a.Homogeneous) (c : Callee) :
    Yields Homogeneous (c.call [] context args) := by
  rcases c with f | number
  · cases htype : f.resultType? with
    | some type =>
      intro e he
      exact (StandardFunction.hasType_call _ context hargs htype e he).homogeneous
    | none =>
      obtain rfl := StandardFunction.resultType?_eq_none htype
      exact yields_map (HigherOrder.homogeneous_mapBag (uniform_callWithin context 0))
  · exact yields_error _

end Callee

/-- The standard functions make no bags of values of several types. -/
theorem FunctionRegistry.homogeneous_call (context : FunctionContext) (f : FunctionRef)
    (hargs : ∀ a ∈ args, a.Homogeneous) : Yields Homogeneous (standard.call context f args) :=
  f.callee.homogeneous_call context hargs

end PolicyDecision
