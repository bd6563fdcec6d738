import PolicyDecision.Function.Registry
import PolicyDecision.Proofs.Combining.Registry
import PolicyDecision.Proofs.Stateful
import Mathlib.Algebra.Order.Ring.Nat
import Mathlib.Data.List.Nodup
import Mathlib.Data.Nat.Digits.Defs

/-! Functions as they stand in the standard registry, each under its own URI. -/

namespace PolicyDecision

namespace StandardFunction

variable {uri : String} {f : StandardFunction} {type : DataType}

/-- The function that makes values of a type from strings. -/
def fromStringUri (type : DataType) : String := namespace3 ++ type.shortName ++ "-from-string"

/-- The function that writes values of a type as strings. -/
def toStringUri (type : DataType) : String := namespace3 ++ "string-from-" ++ type.shortName

/-- The bytes of a text as the digits of a number. -/
def number (s : String) : ℕ := Nat.ofDigits 256 (s.toByteArray.data.toList.map UInt8.toNat)

/-- The place value of what stands behind the text. -/
def scale (s : String) : ℕ := 256 ^ s.toByteArray.data.toList.length

lemma number_append (s t : String) : number (s ++ t) = number s + scale s * number t := by
  simp [number, scale, Nat.ofDigits_append]

/-- The number of a text, cut so that it stays small. -/
def fingerprint (s : String) : ℕ := number s % 20011

/-- The numbers of the URIs are put together from those of their parts, each of which is reckoned
once. -/
lemma fingerprint_append (s t : String) :
    fingerprint (s ++ t) = (number s + scale s * number t) % 20011 := by
  rw [fingerprint, number_append]

/-- No number comes twice, and none is among those that were seen before, the bits of a mask. -/
def allFresh (seen : ℕ) : List ℕ → Bool
  | [] => true
  | n :: ns => ! seen.testBit n && allFresh (seen ||| 2 ^ n) ns

lemma fresh_of_allFresh {seen : ℕ} {ns : List ℕ} (h : allFresh seen ns = true) :
    ns.Nodup ∧ ∀ n ∈ ns, seen.testBit n = false := by
  induction ns generalizing seen with
  | nil => simp
  | cons n ns ih =>
    rw [allFresh, Bool.and_eq_true, Bool.not_eq_true'] at h
    obtain ⟨hn, h⟩ := h
    obtain ⟨hnodup, hfresh⟩ := ih h
    have hseen : ∀ m ∈ ns, seen.testBit m = false ∧ n ≠ m := by
      intro m hm
      simpa [Nat.testBit_or, Nat.testBit_two_pow] using hfresh m hm
    refine ⟨List.nodup_cons.mpr ⟨fun hmem => (hseen n hmem).2 rfl, hnodup⟩, ?_⟩
    exact List.forall_mem_cons.mpr ⟨hn, fun m hm => (hseen m hm).1⟩

lemma map_forType (type : DataType) (suffix : String) (f : StandardFunction) :
    (forType type suffix f).map (fun e => fingerprint e.1) =
      (if type.isDuration then [namespace1, namespace3] else [namespace1]).map
        fun uri => fingerprint (uri ++ (type.shortName ++ ("-" ++ suffix))) := by
  simp only [forType, String.append_assoc]
  split <;> rfl

lemma allFresh_library : allFresh 0 (library.map fun e => fingerprint e.1) = true := by
  simp only [library, equalities, arithmetics, connectives, comparisons, shifts, bags, higherOrders,
    conversions, searches, patterns, texts, List.map_append, List.map_cons, List.map_nil,
    List.map_flatMap, List.map_map, Function.comp_def, map_forType, String.append_assoc,
    fingerprint_append, number_append]
  decide +kernel

/-- Already the fingerprints of the URIs are different, which is a faster check than that of all the
pairs of texts. -/
lemma nodup_library : (library.map Prod.fst).Nodup := by
  have hnodup := (fresh_of_allFresh allFresh_library).1
  rw [← Function.comp_def, ← List.map_map] at hnodup
  exact hnodup.of_map

lemma equality_mem {e : String × StandardFunction} (h : e ∈ equalities) : e ∈ library := by
  simp [library, h]

lemma arithmetic_mem {e : String × StandardFunction} (h : e ∈ arithmetics) : e ∈ library := by
  simp [library, h]

lemma connective_mem {e : String × StandardFunction} (h : e ∈ connectives) : e ∈ library := by
  simp [library, h]

lemma comparison_mem {e : String × StandardFunction} (h : e ∈ comparisons) : e ∈ library := by
  simp [library, h]

lemma conversion_mem {e : String × StandardFunction} (h : e ∈ conversions) : e ∈ library := by
  simp [library, h]

lemma fromString_mem (h : type ∈ convertible) :
    (fromStringUri type, fromString type) ∈ library :=
  conversion_mem (List.mem_flatMap.mpr ⟨type, h, List.mem_cons_self⟩)

lemma toString_mem (h : type ∈ convertible) : (toStringUri type, toString type) ∈ library :=
  conversion_mem (List.mem_flatMap.mpr ⟨type, h, List.mem_cons_of_mem _ List.mem_cons_self⟩)

lemma search_mem {e : String × StandardFunction} (h : e ∈ searches) : e ∈ library := by
  simp [library, h]

lemma text_mem {e : String × StandardFunction} (h : e ∈ texts) : e ∈ library := by
  simp [library, h]

lemma higherOrder_mem {e : String × StandardFunction} (h : e ∈ higherOrders) : e ∈ library := by
  simp [library, h]

end StandardFunction

namespace FunctionRegistry

variable {uri : String} {f : StandardFunction} {context : FunctionContext} {args : Arguments}

open StandardFunction Stateful

lemma require_of_get?
    (h : (Catalogue.ofList (library.map fun e => (e.1, Callee.standard e.2))).get? uri =
      some (.standard f)) : standard.require uri = .ok ⟨uri, .standard f⟩ := by
  have hcallees : standard.callees =
      .ofList (library.map fun e => (e.1, Callee.standard e.2)) := by
    rw [standard]
  rw [require, find?, hcallees, h]
  rfl

/-- Each function of the library stands under its URI. -/
lemma require_standard (h : (uri, f) ∈ library) :
    standard.require uri = .ok ⟨uri, .standard f⟩ := by
  have hkeys : ((library.map fun e => (e.1, Callee.standard e.2)).map Prod.fst).Nodup := by
    rw [List.map_map]
    exact nodup_library
  have hmem : (uri, Callee.standard f) ∈ library.map fun e => (e.1, Callee.standard e.2) :=
    List.mem_map.mpr ⟨_, h, rfl⟩
  refine require_of_get? ?_
  rw [Catalogue.get?_ofList hkeys, lookup_of_mem hkeys hmem]

lemma require_map : standard.require (namespace3 ++ "map") =
    .ok ⟨namespace3 ++ "map", .standard (.higherOrder .map)⟩ :=
  require_standard (higherOrder_mem (by decide))

lemma require_anyOf : standard.require (namespace3 ++ "any-of") =
    .ok ⟨namespace3 ++ "any-of", .standard (.higherOrder .anyOf)⟩ :=
  require_standard (higherOrder_mem (by decide))

lemma require_register_self (r : FunctionRegistry) (uri : String) (f : CustomFunction) :
    (r.register uri f).require uri = .ok ⟨uri, .registered r.custom.length⟩ := by
  rw [require, find?, register, Catalogue.get?_insert_self]
  rfl

lemma require_register_of_ne (r : FunctionRegistry) {uri uri' : String} (h : uri' ≠ uri)
    (f : CustomFunction) : (r.register uri f).require uri' = r.require uri' := by
  rw [require, find?, register, Catalogue.get?_insert_of_ne _ h]
  rfl

lemma call_toString {r : FunctionRegistry} {type : DataType} {v : Value} (hv : v.type = type) :
    r.call context ⟨uri, .standard (.toString type)⟩ [.value v] = .ok (.string v.written) := by
  have htyped : Arguments.typedAt [.value v] type 0 = .ok v :=
    except_bind_eq_ok.mpr ⟨v, rfl, if_pos hv⟩
  exact except_bind_eq_ok.mpr ⟨(), rfl, except_bind_eq_ok.mpr ⟨v, htyped, rfl⟩⟩

lemma call_fromString {r : FunctionRegistry} {type : DataType} {text : String} {v : Value}
    (h : Value.read type text = .ok v) :
    r.call context ⟨uri, .standard (.fromString type)⟩ [.string text] = .ok (.value v) := by
  have hread : Evaluated.value <$> (Value.read type text).mapError EvaluationError.lexical =
      .ok (.value v) := by
    rw [h]
    rfl
  exact except_bind_eq_ok.mpr ⟨(), rfl, except_bind_eq_ok.mpr ⟨text, rfl, hread⟩⟩

end FunctionRegistry

end PolicyDecision
