import PolicyDecision.Proofs.Function.Collection
import PolicyDecision.Proofs.Function.Registry
import PolicyDecision.Proofs.Function.Types
import PolicyDecision.Proofs.HigherOrder.Quantifier

/-! Bags of values that are converted to another type member by member. The new bag has the type of
its first member. So it is of the type that the conversion leads to, unless there are no members. -/

namespace PolicyDecision

open Stateful

lemma exists_forall₂ {α β : Type} {R : α → β → Prop} {l : List α} (h : ∀ a ∈ l, ∃ b, R a b) :
    ∃ l', List.Forall₂ R l l' := by
  induction l with
  | nil => exact ⟨[], .nil⟩
  | cons a l ih =>
    obtain ⟨⟨b, hb⟩, hl⟩ := List.forall_mem_cons.mp h
    obtain ⟨l', hl'⟩ := ih hl
    exact ⟨b :: l', .cons hb hl'⟩

lemma forall_of_forall₂ {α β : Type} {P : β → Prop} {l : List α} {l' : List β}
    (h : List.Forall₂ (fun _ b => P b) l l') : ∀ b ∈ l', P b := by
  induction h with
  | nil => exact List.forall_mem_nil _
  | cons hb _ ih => exact List.forall_mem_cons.mpr ⟨hb, ih⟩

namespace HigherOrder

variable {invoke : Invoke} {f : FunctionRef} {values : List Value}

lemma apply_eq_ok {w : Value} :
    apply invoke f values = .ok w ↔ invoke f (values.map .value) = .ok (.value w) := by
  rw [apply, except_bind_eq_ok]
  constructor
  · rintro ⟨result, hcall, h⟩
    split at h
    · cases h
      exact hcall
    · cases h
  · intro h
    exact ⟨_, h, rfl⟩

/-- The result holds what the function yields for the members, in their order. -/
lemma mapBag_eq_ok {fixed : List Value} {b mapped : Bag} :
    mapBag invoke (.function f :: (fixed.map .value ++ [.bag b])) = .ok mapped ↔
      List.Forall₂ (fun v w => invoke f ((fixed ++ [v]).map .value) = .ok (.value w))
        b.values mapped.values ∧
      mapped.type = (mapped.values.head?.map Value.type).getD b.type := by
  rw [mapBag, except_bind_eq_ok]
  constructor
  · rintro ⟨app, happ, h⟩
    obtain ⟨results, hresults, h⟩ := except_bind_eq_ok.mp h
    obtain rfl : app = ⟨f, fixed, b⟩ :=
      Except.ok.inj (happ.symm.trans (application_eq_ok.mpr rfl))
    cases h
    exact ⟨(except_mapM_eq_ok.mp hresults).imp fun _ _ => apply_eq_ok.mp, rfl⟩
  · rintro ⟨hresults, htype⟩
    refine ⟨⟨f, fixed, b⟩, application_eq_ok.mpr rfl, except_bind_eq_ok.mpr ?_⟩
    refine ⟨mapped.values, except_mapM_eq_ok.mpr (hresults.imp fun _ _ => apply_eq_ok.mpr), ?_⟩
    rw [← htype]
    rfl

end HigherOrder

/-- A function from the values of a type to strings, or from strings to them. -/
inductive Conversion
  | write (type : DataType)
  | read (type : DataType)
  deriving Repr, DecidableEq

namespace Conversion

/-- The type besides the strings. -/
def type : Conversion → DataType
  | write type | read type => type

def source : Conversion → DataType
  | write type => type
  | read _ => .string

def target : Conversion → DataType
  | write _ => .string
  | read type => type

def function : Conversion → FunctionRef
  | write type => ⟨StandardFunction.toStringUri type, .standard (.toString type)⟩
  | read type => ⟨StandardFunction.fromStringUri type, .standard (.fromString type)⟩

variable {c : Conversion}

lemma target_ne_source (hc : c.type ∈ StandardFunction.convertible) : c.target ≠ c.source := by
  have hstring : DataType.string ∉ StandardFunction.convertible := by decide
  cases c with
  | write type =>
    intro (h : .string = type)
    exact hstring (h ▸ hc)
  | read type =>
    intro (h : type = .string)
    exact hstring (h ▸ hc)

lemma require_function (hc : c.type ∈ StandardFunction.convertible) :
    FunctionRegistry.standard.require c.function.uri = .ok c.function := by
  cases c with
  | write type => exact FunctionRegistry.require_standard (StandardFunction.toString_mem hc)
  | read type => exact FunctionRegistry.require_standard (StandardFunction.fromString_mem hc)

/-- A conversion yields values of its target. -/
lemma type_of_call {r : FunctionRegistry} {context : FunctionContext} {v w : Value}
    (h : r.call context c.function [.value v] = .ok (.value w)) : w.type = c.target := by
  have hplain : ∀ a ∈ [Evaluated.value v], a.Homogeneous := by simp [Evaluated.Homogeneous]
  cases c with
  | write type =>
    rw [function, FunctionRegistry.call_standard] at h
    exact StandardFunction.hasType_call _ context hplain rfl _ h
  | read type =>
    rw [function, FunctionRegistry.call_standard] at h
    exact StandardFunction.hasType_call _ context hplain rfl _ h

end Conversion

namespace FunctionRegistry

open HigherOrder

variable {r : FunctionRegistry} {context : FunctionContext} {uri : String} {c : Conversion}
  {b mapped : Bag}

lemma overBag_map_eq_ok {f : FunctionRef} {fixed : List Value} :
    r.overBag context uri .map f fixed b = .ok (.bag mapped) ↔
      List.Forall₂ (fun v w => r.call context f ((fixed ++ [v]).map .value) = .ok (.value w))
        b.values mapped.values ∧
      mapped.type = (mapped.values.head?.map Value.type).getD b.type := by
  rw [overBag, call_higherOrder, ← mapBag_eq_ok]
  refine except_map_eq_ok.trans ⟨?_, fun h => ⟨mapped, h, rfl⟩⟩
  rintro ⟨mapped', h, heq⟩
  cases heq
  exact h

/-- A standard conversion of all the members of a bag keeps their number and their order. The new
bag is one of the type that the conversion leads to, unless it is empty. Then it still has the type
that the conversion starts from, and cannot be used as a bag of the other. -/
theorem map_converts (r : FunctionRegistry) (context : FunctionContext) (uri : String)
    (hc : c.type ∈ StandardFunction.convertible) (hb : b.type = c.source)
    (hconverts : ∀ v ∈ b.values, ∃ w, r.call context c.function [.value v] = .ok (.value w)) :
    standard.require c.function.uri = .ok c.function ∧
    ∃ mapped : Bag, r.overBag context uri .map c.function [] b = .ok (.bag mapped) ∧
      List.Forall₂ (fun v w => r.call context c.function [.value v] = .ok (.value w))
        b.values mapped.values ∧
      (∀ w ∈ mapped.values, w.type = c.target) ∧
      (∀ (args : Arguments) (i : ℕ), args[i]? = some (.bag mapped) →
        (args.bagAt c.target i = .ok mapped ↔ b.values ≠ [])) ∧
      r.call context ⟨uri, .standard (.bag c.source .size)⟩ [.bag b] = .ok (.integer b.size) ∧
      r.call context ⟨uri, .standard (.bag c.target .size)⟩ [.bag mapped] =
        if b.values = [] then .error (.argument 0 (.bag c.target) .bag)
        else .ok (.integer b.size) := by
  obtain ⟨results, hresults⟩ := exists_forall₂ hconverts
  have htypes : ∀ w ∈ results, w.type = c.target :=
    forall_of_forall₂ (hresults.imp fun _ _ => Conversion.type_of_call)
  let mapped : Bag := ⟨(results.head?.map Value.type).getD b.type, results⟩
  have hlength : b.size = mapped.size := hresults.length_eq
  have hmapped : mapped.type = c.target ↔ b.values ≠ [] := by
    cases results with
    | nil =>
      have hne : c.target ≠ b.type := hb ▸ Conversion.target_ne_source hc
      simp [mapped, List.forall₂_nil_right_iff.mp hresults, hne.symm]
    | cons w ws =>
      obtain ⟨v, vs, -, -, hvalues⟩ := List.forall₂_cons_right_iff.mp hresults
      simp [mapped, hvalues, htypes w List.mem_cons_self]
  refine ⟨Conversion.require_function hc, mapped, overBag_map_eq_ok.mpr ⟨hresults, rfl⟩, hresults,
    htypes, fun args i hi => ?_, r.call_size context uri hb, ?_⟩
  · rw [Arguments.bagAt_eq_ok, and_iff_right hi, hmapped]
  · split
    case isTrue hempty => exact r.call_size_of_ne context uri fun h => hmapped.mp h hempty
    case isFalse hempty => rw [hlength, r.call_size context uri (hmapped.mpr hempty)]

/-- Two integers and their texts. -/
theorem map_converts_ages :
    DataType.integer ∈ StandardFunction.convertible ∧
    (∀ v ∈ [Value.integer 18, .integer 21],
      ∃ w, standard.call .blank (Conversion.write .integer).function [.value v] =
        .ok (.value w)) ∧
    standard.overBag .blank "" .map (Conversion.write .integer).function []
      ⟨.integer, [.integer 18, .integer 21]⟩ =
        .ok (.bag ⟨.string, [.string "18", .string "21"]⟩) ∧
    standard.call .blank ⟨"", .standard (.bag .string .size)⟩
      [.bag ⟨.string, [.string "18", .string "21"]⟩] = .ok (.integer 2) := by
  have hinteger : DataType.integer ∈ StandardFunction.convertible := by decide
  have hconverts : ∀ v ∈ [Value.integer 18, .integer 21],
      ∃ w, standard.call .blank (Conversion.write .integer).function [.value v] =
        .ok (.value w) := by
    simp only [List.forall_mem_cons]
    exact ⟨⟨.string "18", rfl⟩, ⟨.string "21", rfl⟩, List.forall_mem_nil _⟩
  obtain ⟨-, mapped, hmapped, -, -, -, -, hsize⟩ := map_converts (c := .write .integer)
    (b := ⟨.integer, [.integer 18, .integer 21]⟩) standard .blank "" hinteger rfl hconverts
  have hages : standard.overBag .blank "" .map (Conversion.write .integer).function []
      ⟨.integer, [.integer 18, .integer 21]⟩ =
        .ok (.bag ⟨.string, [.string "18", .string "21"]⟩) := rfl
  obtain rfl : mapped = ⟨.string, [.string "18", .string "21"]⟩ := by
    simpa using hmapped.symm.trans hages
  exact ⟨hinteger, hconverts, hages, hsize⟩

/-- Without members the integers stay a bag of integers, and no size is found for their texts. -/
theorem exists_map_refused :
    ∃ mapped : Bag, standard.overBag .blank "" .map (Conversion.write .integer).function []
        ⟨.integer, []⟩ = .ok (.bag mapped) ∧
      standard.call .blank ⟨"", .standard (.bag .string .size)⟩ [.bag mapped] =
        .error (.argument 0 (.bag .string) .bag) :=
  ⟨⟨.integer, []⟩, rfl, rfl⟩

end FunctionRegistry

end PolicyDecision
