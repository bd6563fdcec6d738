import PolicyDecision.Proofs.Decimal.Digits
import PolicyDecision.Proofs.Function.Argument
import PolicyDecision.Proofs.Function.Registry
import PolicyDecision.Proofs.Termination.Function
import Mathlib.Algebra.BigOperators.Group.List.Basic
import Mathlib.Algebra.Order.Group.Int

/-! Arithmetic on integers of 64 bits. Nothing wraps: a result that does not fit is an error, also
where it is only a step on the way to one that would. -/

namespace PolicyDecision

open Decimal Stateful

namespace Outcome

/-- The outcome is the error, which is one of processing. -/
def Refuses (outcome : Outcome Evaluated) (e : EvaluationError) : Prop :=
  outcome = .error e ∧ e.status = .processingError

/-- The outcome is the number on a condition, and an overflow without it. -/
def IsNumberIf (outcome : Outcome Evaluated) (P : Prop) (n : ℤ) : Prop :=
  (P → outcome = .ok (.integer n)) ∧ (¬P → outcome.Refuses .integerOverflow)

variable {outcome : Outcome Evaluated} {P : Prop} {m n : ℤ}

lemma IsNumberIf.eq_of_ok (h : outcome.IsNumberIf P n) {v : Evaluated} (hv : outcome = .ok v) :
    v = .integer n := by
  by_cases hP : P
  · exact Except.ok.inj (hv.symm.trans (h.1 hP))
  · cases hv.symm.trans (h.2 hP).1

end Outcome

namespace Arithmetic

variable {op : ℤ → ℤ → ℤ} {e n : ℤ} {ns : List ℤ}

lemma checked_of_isWord (h : IsWord n) : checked n = .ok n := if_pos h

lemma checked_of_not_isWord (h : ¬IsWord n) : checked n = .error .integerOverflow := if_neg h

lemma isNumberIf_checked (n : ℤ) : (Evaluated.integer <$> checked n).IsNumberIf (IsWord n) n := by
  constructor
  · intro h
    rw [checked_of_isWord h]
    rfl
  · intro h
    rw [checked_of_not_isWord h]
    exact ⟨rfl, rfl⟩

lemma forall_prefix_cons {α : Type} {a : α} {l : List α} {P : List α → Prop} :
    (∀ part, part <+: a :: l → P part) ↔ P [] ∧ ∀ part, part <+: l → P (a :: part) := by
  constructor
  · intro h
    exact ⟨h [] (List.nil_prefix), fun part hpart => h _ (List.cons_prefix_cons.mpr ⟨rfl, hpart⟩)⟩
  · rintro ⟨hnil, hcons⟩ part hpart
    rcases List.prefix_cons_iff.mp hpart with rfl | ⟨part', rfl, hpart'⟩
    · exact hnil
    · exact hcons part' hpart'

/-- A fold that checks each result goes through if all of them fit, and not only the last. -/
lemma isNumberIf_foldlM (hn : IsWord n) :
    (Evaluated.integer <$> ns.foldlM (fun a b => checked (op a b)) n).IsNumberIf
      (∀ part, part <+: ns → IsWord (part.foldl op n)) (ns.foldl op n) := by
  induction ns generalizing n with
  | nil =>
    refine ⟨fun _ => rfl, fun h => absurd ?_ h⟩
    intro part hpart
    rw [List.prefix_nil.mp hpart]
    exact hn
  | cons a ns ih =>
    rw [List.foldlM_cons, forall_prefix_cons]
    simp only [List.foldl_nil, List.foldl_cons, hn, true_and]
    by_cases hnext : IsWord (op n a)
    · rw [checked_of_isWord hnext]
      exact ih hnext
    · rw [checked_of_not_isWord hnext]
      exact ⟨fun h => absurd (h [] List.nil_prefix) hnext, fun _ => ⟨rfl, rfl⟩⟩

/-- The first number is there already, and the others come to it one by one. -/
lemma foldIntegers_integers (step : ℤ → ℤ → Outcome ℤ) (hcount : 1 ≤ ns.length) :
    foldIntegers step ((n :: ns).map .integer) = ns.foldlM step n := by
  let args : Arguments := (n :: ns).map .integer
  have hatLeast : args.expectAtLeast 2 = .ok () :=
    Arguments.expectAtLeast_eq_ok.mpr (by simpa [args] using hcount)
  have hfirst : args.integerAt 0 = .ok n := Arguments.integerAt_eq_ok.mpr rfl
  have hindices : args.indicesFrom 1 = List.range' 1 ns.length := by
    simp [args, Arguments.indicesFrom]
  calc foldIntegers step args
      = (args.indicesFrom 1).foldlM (fun n i => do step n (← args.integerAt i)) n := by
        rw [foldIntegers, hatLeast, hfirst]
        rfl
    _ = ns.foldlM step n := by
        rw [hindices]
        exact Arguments.foldlM_range' (fun _ _ => Arguments.integerAt_eq_ok.mpr) step rfl n

/-- A fold that could start from a neutral number succeeds if all the first numbers, however many,
come to one that fits. -/
lemma isNumberIf_foldIntegers (hneutral : ∀ n, op e n = n) (he : IsWord e) (hcount : 2 ≤ ns.length)
    (hns : ∀ n ∈ ns, IsWord n) :
    (Evaluated.integer <$> foldIntegers (fun a b => checked (op a b)) (ns.map .integer)).IsNumberIf
      (∀ part, part <+: ns → IsWord (part.foldl op e)) (ns.foldl op e) := by
  obtain ⟨n, rest, rfl⟩ := List.exists_cons_of_length_pos (Nat.zero_lt_of_lt hcount)
  have hrest : 1 ≤ rest.length := Nat.le_of_succ_le_succ hcount
  rw [foldIntegers_integers _ hrest, forall_prefix_cons]
  simp only [List.foldl_nil, List.foldl_cons, hneutral, he, true_and]
  exact isNumberIf_foldlM (hns n List.mem_cons_self)

/-- Only one quotient of words is not a word. -/
lemma isWord_tdiv_iff {a b : ℤ} (ha : IsWord a) (hb : b ≠ 0) :
    IsWord (a.tdiv b) ↔ ¬(a = leastInteger ∧ b = -1) := by
  have hleast : leastInteger = -9223372036854775808 := rfl
  rw [isWord_iff] at ha ⊢
  rw [hleast]
  by_cases hone : b.natAbs = 1
  · rcases Int.natAbs_eq_iff.mp hone with rfl | rfl
    · rw [Nat.cast_one, Int.tdiv_one]
      omega
    · rw [Nat.cast_one, Int.tdiv_neg, Int.tdiv_one]
      omega
  · have hhalf : (a.tdiv b).natAbs ≤ a.natAbs / 2 := by
      rw [Int.natAbs_tdiv]
      exact Nat.div_le_div_left (by omega) (by decide)
    omega

lemma natAbs_tmod_lt {a b : ℤ} (hb : b ≠ 0) : (a.tmod b).natAbs < b.natAbs := by
  rw [Int.natAbs_tmod]
  exact Nat.mod_lt _ (Int.natAbs_pos.mpr hb)

lemma isWord_tmod {a b : ℤ} (hword : IsWord b) (hb : b ≠ 0) : IsWord (a.tmod b) := by
  have hlt := natAbs_tmod_lt (a := a) hb
  rw [isWord_iff] at hword ⊢
  omega

lemma sign_tmod (a b : ℤ) : a.tmod b = 0 ∨ (a.tmod b).sign = a.sign := by
  have hsign := Int.sign_tmod a b
  by_cases hdvd : b ∣ a
  · exact .inl (Int.tmod_eq_zero_of_dvd hdvd)
  · rw [if_neg hdvd] at hsign
    exact .inr hsign

lemma foldlM_singleton (step : ℤ → ℤ → Outcome ℤ) (a b : ℤ) : [b].foldlM step a = step a b := by
  rw [List.foldlM_cons]
  exact bind_pure _

lemma divideWith_integers (step : ℤ → ℤ → Outcome ℤ) (a b : ℤ) :
    divideWith step ([a, b].map .integer) = if b = 0 then .error .divisionByZero else step a b := by
  let args : Arguments := [a, b].map .integer
  have hdivisor : args.integerAt 1 = .ok b := Arguments.integerAt_eq_ok.mpr rfl
  have hcount : args.expectCount 2 = .ok () := rfl
  rw [divideWith, hcount, hdivisor, foldIntegers_integers step (by simp), foldlM_singleton]
  by_cases hb : b = 0
  · subst hb
    rfl
  · rw [if_neg hb]
    exact if_neg hb

end Arithmetic

namespace FunctionRegistry

open Arithmetic

variable (r : FunctionRegistry) (context : FunctionContext) (uri : String) {ns : List ℤ} {a b : ℤ}

/-- The outcome of an arithmetic function on integers. -/
def onIntegers (op : Arithmetic) (ns : List ℤ) : Outcome Evaluated :=
  r.call context ⟨uri, .standard (.arithmetic op)⟩ (ns.map .integer)

lemma call_arithmetic (op : Arithmetic) (args : Arguments) :
    r.call context ⟨uri, .standard (.arithmetic op)⟩ args = op.call args := by
  rw [call_standard]
  rfl

/-- Integers are passed on as values. -/
lemma value_integer (x : Outcome ℤ) :
    Evaluated.value <$> Value.integer <$> x = Evaluated.integer <$> x := by
  cases x <;> rfl

lemma isNumberIf_add (hcount : 2 ≤ ns.length) (hns : ∀ n ∈ ns, IsWord n) :
    (r.onIntegers context uri .integerAdd ns).IsNumberIf
      (∀ part, part <+: ns → IsWord part.sum) ns.sum := by
  rw [onIntegers, call_arithmetic, Arithmetic.call, value_integer]
  simp only [List.sum_eq_foldl]
  exact isNumberIf_foldIntegers zero_add (isWord_iff.mpr (by decide)) hcount hns

lemma isNumberIf_multiply (hcount : 2 ≤ ns.length) (hns : ∀ n ∈ ns, IsWord n) :
    (r.onIntegers context uri .integerMultiply ns).IsNumberIf
      (∀ part, part <+: ns → IsWord part.prod) ns.prod := by
  rw [onIntegers, call_arithmetic, Arithmetic.call, value_integer]
  simp only [List.prod_eq_foldl]
  exact isNumberIf_foldIntegers one_mul (isWord_iff.mpr (by decide)) hcount hns

lemma isNumberIf_subtract (a b : ℤ) :
    (r.onIntegers context uri .integerSubtract [a, b]).IsNumberIf (IsWord (a - b)) (a - b) := by
  have hcount : Arguments.expectCount ([a, b].map .integer) 2 = .ok () := rfl
  have hcall : r.onIntegers context uri .integerSubtract [a, b] =
      Evaluated.integer <$> checked (a - b) := by
    rw [onIntegers, call_arithmetic, Arithmetic.call, hcount,
      foldIntegers_integers _ (by simp), foldlM_singleton]
    exact value_integer _
  rw [hcall]
  exact isNumberIf_checked (a - b)

lemma isNumberIf_abs (a : ℤ) :
    (r.onIntegers context uri .integerAbs [a]).IsNumberIf (IsWord |a|) |a| := by
  have hcall : r.onIntegers context uri .integerAbs [a] = Evaluated.integer <$> checked |a| := by
    rw [onIntegers, call_arithmetic, Arithmetic.call, Int.abs_eq_natAbs]
    exact value_integer _
  rw [hcall]
  exact isNumberIf_checked |a|

lemma subtract_of_length_ne {args : Arguments} (h : args.length ≠ 2) :
    r.call context ⟨uri, .standard (.arithmetic .integerSubtract)⟩ args =
      .error (.argumentCount 2 args.length) := by
  rw [call_arithmetic, Arithmetic.call, Arguments.expectCount_of_length_ne h]
  rfl

lemma abs_of_length_ne {args : Arguments} (h : args.length ≠ 1) :
    r.call context ⟨uri, .standard (.arithmetic .integerAbs)⟩ args =
      .error (.argumentCount 1 args.length) := by
  rw [call_arithmetic, Arithmetic.call, Arguments.expectCount_of_length_ne h]
  rfl

lemma divide_integers (a b : ℤ) : r.onIntegers context uri .integerDivide [a, b] =
    Evaluated.integer <$> if b = 0 then .error .divisionByZero else checked (a.tdiv b) := by
  rw [onIntegers, call_arithmetic, Arithmetic.call, divideWith_integers, value_integer]
  rfl

lemma mod_integers (a b : ℤ) : r.onIntegers context uri .integerMod [a, b] =
    Evaluated.integer <$> if b = 0 then .error .divisionByZero else remainder a b := by
  rw [onIntegers, call_arithmetic, Arithmetic.call, divideWith_integers, value_integer]

lemma isNumberIf_divide (hb : b ≠ 0) :
    (r.onIntegers context uri .integerDivide [a, b]).IsNumberIf (IsWord (a.tdiv b)) (a.tdiv b) := by
  rw [divide_integers, if_neg hb]
  exact isNumberIf_checked (a.tdiv b)

/-- The remainder needs the quotient to fit, though it always fits itself. -/
lemma isNumberIf_mod (hb : b ≠ 0) :
    (r.onIntegers context uri .integerMod [a, b]).IsNumberIf (IsWord (a.tdiv b)) (a.tmod b) := by
  rw [mod_integers, if_neg hb, remainder, quotient]
  constructor
  · intro h
    rw [checked_of_isWord h]
    rfl
  · intro h
    rw [checked_of_not_isWord h]
    exact ⟨rfl, rfl⟩

/-- Each arithmetic function stands in the registry under its URI. -/
lemma require_arithmetic {e : String × StandardFunction} (h : e ∈ StandardFunction.arithmetics) :
    standard.require e.1 = .ok ⟨e.1, .standard e.2⟩ :=
  require_standard (StandardFunction.arithmetic_mem h)

/-- A sum or a product is exact if all the sums or products of the first numbers fit in 64 bits, and
an overflow otherwise, whatever numbers come later. So it does not depend on the order where both
orders go through. A difference is one of two numbers, an absolute value that of one. -/
theorem folds_exact :
    (∀ e ∈ StandardFunction.arithmetics, standard.require e.1 = .ok ⟨e.1, .standard e.2⟩) ∧
    (∀ ns : List ℤ, 2 ≤ ns.length → (∀ n ∈ ns, IsWord n) →
      (r.onIntegers context uri .integerAdd ns).IsNumberIf
        (∀ part, part <+: ns → IsWord part.sum) ns.sum ∧
      (r.onIntegers context uri .integerMultiply ns).IsNumberIf
        (∀ part, part <+: ns → IsWord part.prod) ns.prod ∧
      ∀ op ∈ [Arithmetic.integerAdd, .integerMultiply], ∀ ns', ns.Perm ns' → ∀ v v',
        r.onIntegers context uri op ns = .ok v → r.onIntegers context uri op ns' = .ok v' →
          v = v') ∧
    (∀ a b : ℤ,
      (r.onIntegers context uri .integerSubtract [a, b]).IsNumberIf (IsWord (a - b)) (a - b)) ∧
    (∀ a : ℤ, (r.onIntegers context uri .integerAbs [a]).IsNumberIf (IsWord |a|) |a|) ∧
    (∀ args : Arguments, args.length ≠ 2 →
      r.call context ⟨uri, .standard (.arithmetic .integerSubtract)⟩ args =
        .error (.argumentCount 2 args.length)) ∧
    ∀ args : Arguments, args.length ≠ 1 →
      r.call context ⟨uri, .standard (.arithmetic .integerAbs)⟩ args =
        .error (.argumentCount 1 args.length) := by
  refine ⟨fun _ => require_arithmetic, fun ns hcount hns => ?_, r.isNumberIf_subtract context uri,
    r.isNumberIf_abs context uri, fun _ => r.subtract_of_length_ne context uri,
    fun _ => r.abs_of_length_ne context uri⟩
  refine ⟨r.isNumberIf_add context uri hcount hns, r.isNumberIf_multiply context uri hcount hns, ?_⟩
  intro op hop ns' hperm v v' hv hv'
  have hcount' : 2 ≤ ns'.length := hperm.length_eq ▸ hcount
  have hns' : ∀ n ∈ ns', IsWord n := fun n hn => hns n (hperm.mem_iff.mpr hn)
  rcases List.mem_pair.mp hop with rfl | rfl
  · rw [(r.isNumberIf_add context uri hcount hns).eq_of_ok hv,
      (r.isNumberIf_add context uri hcount' hns').eq_of_ok hv', hperm.sum_eq]
  · rw [(r.isNumberIf_multiply context uri hcount hns).eq_of_ok hv,
      (r.isNumberIf_multiply context uri hcount' hns').eq_of_ok hv', hperm.prod_eq]

/-- The same three numbers overflow on the way to their sum, or do not. -/
theorem folds_exact_reordered :
    2 ≤ [greatestInteger, 1, -5].length ∧ (∀ n ∈ [greatestInteger, 1, -5], IsWord n) ∧
    standard.onIntegers .blank "" .integerAdd [greatestInteger, 1, -5] = .error .integerOverflow ∧
    standard.onIntegers .blank "" .integerAdd [-5, greatestInteger, 1] =
      .ok (.integer (greatestInteger - 4)) := by
  have hgreatest : greatestInteger = 9223372036854775807 := rfl
  have hwords : ∀ n ∈ [greatestInteger, 1, -5], IsWord n := by
    simp [isWord_iff, hgreatest]
  have hreordered : ∀ n ∈ [-5, greatestInteger, 1], IsWord n := by
    simp [isWord_iff, hgreatest]
  have hoverflow : ¬∀ part, part <+: [greatestInteger, 1, -5] → IsWord part.sum := by
    intro h
    exact absurd (isWord_iff.mp (h [greatestInteger, 1] ⟨[-5], rfl⟩)) (by decide)
  have hfits : ∀ part, part <+: [-5, greatestInteger, 1] → IsWord part.sum := by
    simp [forall_prefix_cons, isWord_iff, hgreatest]
  obtain ⟨-, hfolds, -⟩ := folds_exact standard .blank ""
  have hrefused := (hfolds _ (by decide) hwords).1.2 hoverflow
  have hsum := (hfolds _ (by decide) hreordered).1.1 hfits
  exact ⟨by decide, hwords, hrefused.1, hsum⟩

/-- Quotient and remainder of integers of 64 bits obey the law of truncated division. Both are
refused where the quotient does not fit, which happens once. By zero nothing is divided. -/
theorem division_law (ha : IsWord a) (hb : IsWord b) :
    (∀ e ∈ StandardFunction.arithmetics, standard.require e.1 = .ok ⟨e.1, .standard e.2⟩) ∧
    (b = 0 → (r.onIntegers context uri .integerDivide [a, b]).Refuses .divisionByZero ∧
      (r.onIntegers context uri .integerMod [a, b]).Refuses .divisionByZero) ∧
    (b ≠ 0 →
      (r.onIntegers context uri .integerDivide [a, b]).IsNumberIf (IsWord (a.tdiv b)) (a.tdiv b) ∧
      (r.onIntegers context uri .integerMod [a, b]).IsNumberIf (IsWord (a.tdiv b)) (a.tmod b) ∧
      (IsWord (a.tdiv b) ↔ ¬(a = leastInteger ∧ b = -1)) ∧
      IsWord (a.tmod b)) ∧
    ∀ q m : ℤ, r.onIntegers context uri .integerDivide [a, b] = .ok (.integer q) →
      r.onIntegers context uri .integerMod [a, b] = .ok (.integer m) →
      a = q * b + m ∧ |m| < |b| ∧ (m = 0 ∨ m.sign = a.sign) := by
  refine ⟨fun _ => require_arithmetic, fun hzero => ?_, fun hne => ?_, fun q m hq hm => ?_⟩
  · rw [divide_integers, mod_integers, if_pos hzero, if_pos hzero]
    exact ⟨⟨rfl, rfl⟩, ⟨rfl, rfl⟩⟩
  · exact ⟨r.isNumberIf_divide context uri hne, r.isNumberIf_mod context uri hne,
      isWord_tdiv_iff ha hne, isWord_tmod hb hne⟩
  · have hne : b ≠ 0 := by
      rintro rfl
      rw [divide_integers, if_pos rfl] at hq
      cases hq
    cases (r.isNumberIf_divide context uri hne).eq_of_ok hq
    cases (r.isNumberIf_mod context uri hne).eq_of_ok hm
    refine ⟨(Int.tdiv_mul_add_tmod a b).symm, ?_, sign_tmod a b⟩
    rw [Int.abs_eq_natAbs, Int.abs_eq_natAbs]
    exact_mod_cast natAbs_tmod_lt hne

/-- The quotient is cut towards zero, so that the remainder is negative as the dividend is. -/
theorem division_law_negative :
    IsWord (-7) ∧ IsWord 2 ∧
    standard.onIntegers .blank "" .integerDivide [-7, 2] = .ok (.integer (-3)) ∧
    standard.onIntegers .blank "" .integerMod [-7, 2] = .ok (.integer (-1)) ∧
    (-7 : ℤ) = -3 * 2 + -1 ∧ |(-1 : ℤ)| < |2| ∧ (-1 : ℤ).sign = (-7 : ℤ).sign := by
  have hdividend : IsWord (-7) := isWord_iff.mpr (by decide)
  have hdivisor : IsWord 2 := isWord_iff.mpr (by decide)
  have hquotient : IsWord (Int.tdiv (-7) 2) := isWord_iff.mpr (by decide)
  obtain ⟨-, -, hresults, hlaw⟩ := division_law standard .blank "" hdividend hdivisor
  obtain ⟨hdivide, hmod, -⟩ := hresults (by decide)
  obtain ⟨hsum, hlt, hsign⟩ := hlaw _ _ (hdivide.1 hquotient) (hmod.1 hquotient)
  exact ⟨hdividend, hdivisor, hdivide.1 hquotient, hmod.1 hquotient, hsum, hlt,
    hsign.resolve_left (by decide)⟩

/-- The least integer is a multiple of -1, and the remainder is refused all the same. -/
theorem exists_remainder_refused :
    ∃ a b : ℤ, IsWord a ∧ IsWord b ∧ b ≠ 0 ∧ a.tmod b = 0 ∧
      standard.onIntegers .blank "" .integerMod [a, b] = .error .integerOverflow :=
  ⟨leastInteger, -1, isWord_iff.mpr (by decide), isWord_iff.mpr (by decide), by decide, by decide,
    rfl⟩

end FunctionRegistry

end PolicyDecision
