import PolicyDecision.Proofs.Function.Types
import PolicyDecision.Proofs.Variable.Transparency

/-! Bags are homogeneous: whatever is evaluated, and whatever has been evaluated before, the members
of a bag are of the type of the bag. -/

namespace PolicyDecision

open Stateful

/-- The bags among the values of variables are homogeneous. -/
def VariableStates.Homogeneous (known : VariableStates) : Prop :=
  ∀ id v, known.get? id = some (.done (.ok v)) → v.Homogeneous

namespace VariableStates

lemma homogeneous_empty : Homogeneous ∅ := by
  intro id v h
  cases h

lemma Homogeneous.insert {known : VariableStates} (h : known.Homogeneous) (id : String)
    {state : VariableState} (hstate : ∀ v, state = .done (.ok v) → v.Homogeneous) :
    Homogeneous (known.insert id state) := by
  intro id' v hv
  by_cases hid : id' = id
  · rw [hid, Catalogue.get?_insert_self] at hv
    exact hstate v (Option.some.inj hv)
  · rw [Catalogue.get?_insert_of_ne known hid] at hv
    exact h id' v hv

end VariableStates

/-- The type that an expression names, if it asks for attribute values. -/
def Expression.namedType? : Expression → Option String
  | designator d => some d.dataType
  | selector s => some s.dataType
  | _ => none

namespace Environment

variable {env : Environment}

lemma yields_requireType (uri : String) :
    Yields (fun type => DataType.ofUri? uri = some type) (requireType uri) := by
  unfold requireType
  split
  case h_1 type h => exact yields_ok h
  case h_2 => exact yields_error _

lemma yields_readBag (type : DataType) (texts : List String) :
    Yields (fun b => b.type = type ∧ b.Homogeneous)
      ((readBag type texts).mapError Fault.evaluation) := by
  intro b hb
  have hread := except_mapError_eq_ok.mp hb
  unfold readBag at hread
  split at hread
  case h_1 values hvalues =>
    cases hread
    exact ⟨rfl, forall_of_except_mapM_eq_ok (fun _ _ => Value.type_of_read) hvalues⟩
  case h_2 => cases hread

lemma type_of_clockValue? {d : Designator} {type : DataType} {v : Value}
    (h : env.clockValue? d type = some v) : v.type = type := by
  unfold clockValue? at h
  split at h
  case h_1 => cases h
  case h_2 now _ =>
    split_ifs at h with _ ht hd hdt
    · cases h
      exact ht.2.symm
    · cases h
      exact hd.2.symm
    · cases h
      exact hdt.2.symm

/-- Whether a bag may be empty does not matter for what is in it. -/
lemma yields_present {P : Bag → Prop} {b : Bag} (absent : Bool) (fault : Fault) (h : P b) :
    Yields P (do
      if absent then throw fault
      return b : Except Fault Bag) := by
  split
  · exact yields_error _
  · exact yields_ok h

lemma yields_designate (d : Designator) :
    Yields (fun b => DataType.ofUri? d.dataType = some b.type ∧ b.Homogeneous)
      (env.designate d) := by
  refine yields_bind (yields_requireType d.dataType) fun type htype => ?_
  refine yields_then fun texts => yields_bind (yields_readBag type texts) fun found hfound => ?_
  refine yields_present _ _ ?_
  split
  case isTrue =>
    exact ⟨htype, fun v hv => type_of_clockValue? (Option.mem_toList.mp hv)⟩
  case isFalse => exact ⟨hfound.1 ▸ htype, hfound.2⟩

lemma yields_select (s : Selector) :
    Yields (fun b => DataType.ofUri? s.dataType = some b.type ∧ b.Homogeneous) (env.select s) := by
  refine yields_bind (yields_requireType s.dataType) fun type htype => ?_
  refine yields_then fun texts => yields_bind (yields_readBag type texts) fun bag hbag => ?_
  exact yields_present _ _ ⟨hbag.1 ▸ htype, hbag.2⟩

section Standard

variable (hfunctions : env.functions = .standard)
include hfunctions

lemma yields_called (f : FunctionRef) {args : Arguments} (hargs : ∀ a ∈ args, a.Homogeneous) :
    Yields Evaluated.Homogeneous (Expression.called env f args) := by
  intro v hv
  have hcall := except_mapError_eq_ok.mp (except_mapError_eq_ok.mp hv)
  rw [call, hfunctions] at hcall
  exact FunctionRegistry.homogeneous_call env.functionContext f hargs v hcall

/-- An expression has homogeneous bags if its variables have. -/
lemma delivers_evaluateWith {valueOf : String → Evaluation Evaluated}
    (hvalue : ∀ id, Delivers VariableStates.Homogeneous Evaluated.Homogeneous (valueOf id))
    (e : Expression) :
    Delivers VariableStates.Homogeneous Evaluated.Homogeneous (e.evaluateWith env valueOf) := by
  induction e using Expression.induction with
  | literal l =>
    intro known hknown
    rw [Expression.evaluateWith_literal]
    exact ⟨hknown, yields_map fun _ _ => trivial⟩
  | designator d =>
    intro known hknown
    rw [Expression.evaluateWith_designator]
    exact ⟨hknown, yields_map fun b hb => (yields_designate d b hb).2⟩
  | selector s =>
    intro known hknown
    rw [Expression.evaluateWith_selector]
    exact ⟨hknown, yields_map fun b hb => (yields_select s b hb).2⟩
  | variableRef id =>
    rw [Expression.evaluateWith]
    exact hvalue id
  | function uri =>
    intro known hknown
    rw [Expression.evaluateWith_function]
    exact ⟨hknown, yields_map fun _ _ => trivial⟩
  | apply uri args ih =>
    intro known hknown
    rw [Expression.evaluateWith_apply]
    split
    case h_1 => exact ⟨hknown, yields_error _⟩
    case h_2 f _ =>
      obtain ⟨hstate, hvalues⟩ := delivers_mapM ih known hknown
      exact ⟨hstate, yields_bind hvalues fun values => yields_called hfunctions f⟩

variable {definitions : List VariableDefinition} {known known' : VariableStates}

lemma delivers_variableValue (depth : ℕ) (id : String) :
    Delivers VariableStates.Homogeneous Evaluated.Homogeneous
      (env.variableValue definitions depth id) := by
  induction depth generalizing id with
  | zero => exact fun known hknown => ⟨hknown, yields_error _⟩
  | succ depth ih =>
    intro known hknown
    rw [variableValue_apply]
    cases definition? definitions id with
    | none => exact ⟨hknown, yields_error _⟩
    | some d =>
      rcases hid : known.get? id with _ | _ | result
      · have hpending : VariableStates.Homogeneous (known.insert id .pending) :=
          hknown.insert id fun v hv => nomatch hv
        obtain ⟨hstate, hvalue⟩ := delivers_evaluateWith hfunctions ih d.expression _ hpending
        simp only [Evaluation.outcome_apply]
        rcases hx : d.expression.evaluateWith env (env.variableValue definitions depth)
          (known.insert id .pending) with ⟨(e | c) | v, known'⟩
        · rw [hx] at hstate
          exact ⟨hstate.insert id (fun v hv => nomatch hv), yields_error _⟩
        · rw [hx] at hstate
          exact ⟨hstate, yields_error _⟩
        · rw [hx] at hstate hvalue
          have hv : v.Homogeneous := hvalue v rfl
          refine ⟨hstate.insert id fun v' hv' => ?_, yields_ok hv⟩
          cases hv'
          exact hv
      · exact ⟨hknown, yields_error _⟩
      · refine ⟨hknown, fun v hv => hknown id v ?_⟩
        rw [hid, except_mapError_eq_ok.mp hv]

lemma delivers_evaluate (e : Expression) :
    Delivers VariableStates.Homogeneous Evaluated.Homogeneous (env.evaluate definitions e) :=
  delivers_evaluateWith hfunctions (delivers_variableValue hfunctions _) e

lemma delivers_evaluateAll (es : List Expression) :
    Delivers VariableStates.Homogeneous (fun vs => ∀ v ∈ vs, v.Homogeneous)
      (es.mapM (env.evaluate definitions)) :=
  delivers_mapM fun e _ => delivers_evaluate hfunctions e

lemma delivers_evaluateAssignment (a : Assignment) :
    Delivers VariableStates.Homogeneous
      (fun attributes => ∃ type : DataType, ∀ x ∈ attributes, x.value.type = type)
      (env.evaluateAssignment definitions a) := by
  refine delivers_bind (delivers_evaluate hfunctions a.expression) fun v hv => ?_
  cases v with
  | value v => exact delivers_pure ⟨v.type, by simp⟩
  | bag b =>
    have hmembers : ∀ v ∈ b.values, v.type = b.type := hv
    exact delivers_pure ⟨b.type, by simpa using hmembers⟩
  | function f => exact fun known hknown => ⟨hknown, yields_error _⟩

/-- At whatever moment of an evaluation, the known bags are homogeneous. -/
lemma Moment.homogeneous {e : Expression} (h : env.Moment definitions known e) :
    known.Homogeneous := by
  have hsettled : ∀ known, env.Settled definitions known → known.Homogeneous := by
    intro known h
    induction h with
    | start => exact VariableStates.homogeneous_empty
    | next _ e _ ih => exact (delivers_evaluate hfunctions e _ ih).1
  induction h with
  | start h e => exact hsettled _ h
  | definition _ _ _ ih => exact ih.insert _ fun v hv => nomatch hv
  | @argument known _ _ before _ _ _ _ hbefore ih =>
    have hstate : VariableStates.Homogeneous (before.mapM (env.evaluate definitions) known).2 :=
      (delivers_evaluateAll hfunctions before known ih).1
    rwa [hbefore] at hstate

omit hfunctions in
lemma eq_ok_of_map_bag {x : Except Fault Bag} {b : Bag} (h : x.map Evaluated.bag = .ok (.bag b)) :
    x = .ok b := by
  obtain ⟨b', hb', heq⟩ := except_map_eq_ok.mp h
  rwa [← Evaluated.bag.inj heq]

/-- A bag holds values of its type only, and the bag of attribute values is of the type that is
asked for. So no function is given a bag of several types, and no assignment makes attributes of
several types. -/
theorem evaluate_homogeneous {e : Expression} (h : env.Moment definitions known e) :
    (∀ b, (env.evaluate definitions e known).1 = .ok (.bag b) →
        (∀ v ∈ b.values, v.type = b.type) ∧
          ∀ uri ∈ e.namedType?, DataType.ofUri? uri = some b.type) ∧
      (∀ uri args, e = .apply uri args →
        ∀ values, (args.mapM (env.evaluate definitions) known).1 = .ok values →
          ∀ b, .bag b ∈ values → ∀ v ∈ b.values, v.type = b.type) ∧
      ∀ a : Assignment, a.expression = e →
        ∀ attributes, (env.evaluateAssignment definitions a known).1 = .ok attributes →
          ∃ type : DataType, ∀ x ∈ attributes, x.value.type = type := by
  have hknown := h.homogeneous hfunctions
  refine ⟨fun b hb => ⟨?_, ?_⟩, ?_, ?_⟩
  · exact (delivers_evaluate hfunctions e known hknown).2 _ hb
  · intro uri huri
    cases e with
    | designator d =>
      cases huri
      simp only [evaluate, Expression.evaluateWith_designator] at hb
      exact (yields_designate d b (eq_ok_of_map_bag hb)).1
    | selector s =>
      cases huri
      simp only [evaluate, Expression.evaluateWith_selector] at hb
      exact (yields_select s b (eq_ok_of_map_bag hb)).1
    | _ => cases huri
  · intro uri args _ values hvalues b hb
    exact (delivers_evaluateAll hfunctions args known hknown).2 values hvalues _ hb
  · intro a _ attributes hattributes
    exact (delivers_evaluateAssignment hfunctions a known hknown).2 attributes hattributes

end Standard

/-- Whatever attribute is asked for, there are two values of it. -/
def doubled (functions : FunctionRegistry) : Environment :=
  { barren with source := { values := fun _ => .ok ["18", "21"] }, functions }

def ages : List VariableDefinition :=
  [⟨"ages", .designator
    { category := "subject", attributeId := "age", dataType := DataType.integer.uri }⟩]

/-- The values of a variable, each of them written as a string. -/
def writtenAges : Expression :=
  .apply (StandardFunction.namespace3 ++ "map")
    [.function (StandardFunction.toStringUri .integer), .variableRef "ages"]

/-- What is known once the variable has been evaluated. -/
def agesKnown (functions : FunctionRegistry) : VariableStates :=
  ((doubled functions).evaluate ages (.variableRef "ages") ∅).2

lemma evaluate_ages (functions : FunctionRegistry) :
    (doubled functions).evaluate ages (.variableRef "ages") ∅ =
      (.ok (.bag ⟨.integer, [.integer 18, .integer 21]⟩), agesKnown functions) := rfl

lemma evaluate_ages_again (functions : FunctionRegistry) :
    (doubled functions).evaluate ages (.variableRef "ages") (agesKnown functions) =
      (.ok (.bag ⟨.integer, [.integer 18, .integer 21]⟩), agesKnown functions) := rfl

lemma evaluate_writtenAges {functions : FunctionRegistry}
    (hmap : functions.require (StandardFunction.namespace3 ++ "map") =
      .ok ⟨StandardFunction.namespace3 ++ "map", .standard (.higherOrder .map)⟩)
    (hwrite : functions.require (StandardFunction.toStringUri .integer) =
      .ok ⟨StandardFunction.toStringUri .integer, .standard (.toString .integer)⟩) :
    ((doubled functions).evaluate ages writtenAges (agesKnown functions)).1 =
      .ok (.bag ⟨.string, [.string "18", .string "21"]⟩) := by
  have hfunctions : (doubled functions).functions = functions := rfl
  have hfunction : (doubled functions).evaluate ages
      (.function (StandardFunction.toStringUri .integer)) (agesKnown functions) =
        (.ok (.function ⟨StandardFunction.toStringUri .integer, .standard (.toString .integer)⟩),
          agesKnown functions) := by
    rw [evaluate, Expression.evaluateWith_function, hfunctions, hwrite]
    rfl
  rw [writtenAges, evaluate_apply, mapM_cons_apply, hfunction, hfunctions, hmap]
  simp only
  rw [mapM_cons_apply, evaluate_ages_again]
  rfl

/-- The integers that are known of the variable are mapped to strings. -/
theorem evaluate_homogeneous_writtenAges :
    (doubled .standard).Moment ages (agesKnown .standard) writtenAges ∧
      ((doubled .standard).evaluate ages writtenAges (agesKnown .standard)).1 =
        .ok (.bag ⟨.string, [.string "18", .string "21"]⟩) ∧
      ∀ v ∈ [Value.string "18", .string "21"], v.type = .string := by
  have hsettled : (doubled .standard).Settled ages (agesKnown .standard) :=
    .next .start (.variableRef "ages") (by simp [evaluate_ages])
  have hmoment := Moment.start hsettled writtenAges
  have hwrite := FunctionRegistry.require_standard
    (StandardFunction.toString_mem (by decide : DataType.integer ∈ StandardFunction.convertible))
  have hvalue := evaluate_writtenAges FunctionRegistry.require_map hwrite
  have hfunctions : (doubled .standard).functions = .standard := rfl
  exact ⟨hmoment, hvalue, ((evaluate_homogeneous hfunctions hmoment).1 _ hvalue).1⟩

end Environment

end PolicyDecision
