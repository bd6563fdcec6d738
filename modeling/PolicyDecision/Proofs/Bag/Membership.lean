import PolicyDecision.Proofs.Function.Types
import PolicyDecision.Value
import Mathlib.Tactic.Common

/-! Equality of values, and membership in bags up to it. Equality is an equivalence, except for
doubles: one that is not a number differs from itself. Equal values are of one type, but need not be
identical. -/

namespace PolicyDecision.Value

variable {a b c : Value}

lemma type_eq_of_same (h : a.same b = true) : a.type = b.type := by
  fun_cases same a b <;> first | rfl | simp [same] at h

lemma same_self (h : a.type ≠ .double) : a.same a = true := by
  cases a <;> simp_all [same, type, Rfc822Name.same, Text.sameIgnoringAsciiCase, X500Name.same]

lemma same_symm (ha : a.type ≠ .double) (h : a.same b = true) : b.same a = true := by
  fun_cases same a b <;>
    simp_all [same, type, Rfc822Name.same, Text.sameIgnoringAsciiCase, X500Name.same]

lemma same_trans (ha : a.type ≠ .double) (hab : a.same b = true) (hbc : b.same c = true) :
    a.same c = true := by
  fun_cases same a b <;> cases c <;>
    simp_all [same, type, Rfc822Name.same, Text.sameIgnoringAsciiCase, X500Name.same]

end PolicyDecision.Value

/-! Membership in bags up to the equality of their type. It is kept when repetitions are removed,
and is the same for equal values. -/

namespace PolicyDecision.Bag

variable {type : DataType} {a b : Bag} {v w : Value}

/-- A bag of the type, with members of the type. -/
def IsOf (type : DataType) (b : Bag) : Prop := (Evaluated.bag b).HasType type

lemma IsOf.type_eq (h : b.IsOf type) : b.type = type := h.1

lemma IsOf.type_of_mem (h : b.IsOf type) (hv : v ∈ b.values) : v.type = type :=
  (h.2 v hv).trans h.1

lemma isOf_mk {values : List Value} (h : ∀ v ∈ values, v.type = type) : IsOf type ⟨type, values⟩ :=
  ⟨rfl, h⟩

lemma contains_iff : b.contains v = true ↔ ∃ w ∈ b.values, w.same v = true := List.any_eq_true

/-- Values that are kept are not equal to each other. -/
lemma pairwise_distinctAfter {kept : List Value}
    (hkept : kept.Pairwise fun v w => v.same w = false) (vs : List Value) :
    (kept ++ distinctAfter kept vs).Pairwise fun v w => v.same w = false := by
  induction vs generalizing kept with
  | nil => simpa [distinctAfter] using hkept
  | cons v vs ih =>
    rw [distinctAfter]
    split
    case isTrue => exact ih hkept
    case isFalse hnew =>
      have hkept' : (kept ++ [v]).Pairwise fun v w => v.same w = false := by
        simp only [List.any_eq_true, not_exists, not_and, Bool.not_eq_true] at hnew
        simpa [List.pairwise_append] using ⟨hkept, hnew⟩
      simpa using ih hkept'

lemma pairwise_distinct (b : Bag) : b.distinct.Pairwise fun v w => v.same w = false :=
  pairwise_distinctAfter List.Pairwise.nil b.values

lemma mem_of_mem_distinct (h : v ∈ b.distinct) : v ∈ b.values := mem_of_mem_distinctAfter h

section Equality

variable (hdouble : type ≠ .double)
include hdouble

/-- Of what is left out an equal value is kept. -/
lemma exists_same_distinctAfter {kept vs : List Value} (hkept : ∀ w ∈ kept, w.type = type)
    (hvs : ∀ w ∈ vs, w.type = type) :
    (∃ w ∈ kept ++ distinctAfter kept vs, w.same v = true) ↔
      ∃ w ∈ kept ++ vs, w.same v = true := by
  induction vs generalizing kept with
  | nil => rfl
  | cons u vs ih =>
    obtain ⟨hu, hvs⟩ := List.forall_mem_cons.mp hvs
    rw [distinctAfter]
    split
    case isTrue hold =>
      obtain ⟨w, hw, hwu⟩ := List.any_eq_true.mp hold
      have hequal : u.same v = true → w.same v = true :=
        Value.same_trans (hkept w hw ▸ hdouble) hwu
      rw [ih hkept hvs]
      constructor
      · rintro ⟨x, hx, hxv⟩
        exact ⟨x, by grind, hxv⟩
      · rintro ⟨x, hx, hxv⟩
        rcases List.mem_append.mp hx with hx | hx
        · exact ⟨x, List.mem_append_left _ hx, hxv⟩
        · rcases List.mem_cons.mp hx with rfl | hx
          · exact ⟨w, List.mem_append_left _ hw, hequal hxv⟩
          · exact ⟨x, List.mem_append_right _ hx, hxv⟩
    case isFalse =>
      have hkept' : ∀ w ∈ kept ++ [u], w.type = type := by simpa [or_imp, forall_and] using ⟨hkept, hu⟩
      simpa using ih hkept' hvs

/-- Membership is the same when repetitions are removed. -/
lemma exists_same_distinct (hb : b.IsOf type) :
    (∃ w ∈ b.distinct, w.same v = true) ↔ b.contains v = true := by
  have hkept : ∀ w ∈ ([] : List Value), w.type = type := List.forall_mem_nil _
  rw [contains_iff]
  exact exists_same_distinctAfter hdouble hkept fun _ => hb.type_of_mem

/-- A bag contains its members. -/
lemma contains_of_mem (hb : b.IsOf type) (hv : v ∈ b.values) : b.contains v = true :=
  contains_iff.mpr ⟨v, hv, Value.same_self (hb.type_of_mem hv ▸ hdouble)⟩

lemma contains_of_same (hb : b.IsOf type) (hvw : v.same w = true) (hv : b.contains v = true) :
    b.contains w = true := by
  obtain ⟨u, hu, huv⟩ := contains_iff.mp hv
  exact contains_iff.mpr ⟨u, hu, Value.same_trans (hb.type_of_mem hu ▸ hdouble) huv hvw⟩

end Equality

end PolicyDecision.Bag
