import PolicyDecision.Decimal.Digits
import PolicyDecision.Decimal.Reader
import PolicyDecision.Proofs.Stateful
import PolicyDecision.Proofs.Text.Split
import Mathlib.Algebra.Order.Ring.Nat
import Mathlib.Data.List.DropRight
import Mathlib.Tactic.Common
import Mathlib.Tactic.Ring

/-! Numbers are read back from their digits, from padded digits and from the digits of a fraction. -/

namespace PolicyDecision.Decimal

variable {n width : ℕ} {c : Char} {cs : List Char}

lemma ofDigits_append (as bs : List Char) :
    ofDigits (as ++ bs) = ofDigits as * 10 ^ bs.length + ofDigits bs := by
  have hfoldl : ∀ (cs : List Char) (m : ℕ),
      cs.foldl (fun n c => 10 * n + digitValue c) m = m * 10 ^ cs.length + ofDigits cs := by
    intro cs
    induction cs with
    | nil => simp [ofDigits]
    | cons c cs ih =>
      intro m
      have hfirst : ofDigits (c :: cs) = (10 * 0 + digitValue c) * 10 ^ cs.length + ofDigits cs :=
        ih _
      rw [List.foldl_cons, ih, hfirst, List.length_cons]
      ring
  rw [ofDigits, List.foldl_append]
  exact hfoldl bs _

lemma ofDigits_zeros (k : ℕ) : ofDigits (List.replicate k '0') = 0 := by
  induction k with
  | zero => rfl
  | succ k ih =>
    rw [List.replicate_succ, ← List.singleton_append, ofDigits_append, ih]
    simp [ofDigits, digitValue]

lemma digitValue_le (h : c.isDigit = true) : digitValue c ≤ 9 :=
  Nat.sub_le_sub_right (Char.isDigit_iff_toNat.mp h).2 48

lemma ofDigits_lt (h : ∀ c ∈ cs, c.isDigit = true) : ofDigits cs < 10 ^ cs.length := by
  induction cs with
  | nil => decide
  | cons c cs ih =>
    obtain ⟨hc, hcs⟩ := List.forall_mem_cons.mp h
    have hvalue : ofDigits [c] = digitValue c := Nat.zero_add _
    have hle := Nat.mul_le_mul_right (10 ^ cs.length) (digitValue_le hc)
    have hlt := ih hcs
    rw [← List.singleton_append, ofDigits_append, hvalue, List.length_append, List.length_singleton,
      pow_add, pow_one]
    omega

/-- Zeros are added to digits that are too few, and digits that are too many are left out: either way
the digits are shifted to the width and cut there. -/
lemma ofDigits_cut (width : ℕ) (h : ∀ c ∈ cs, c.isDigit = true) :
    ofDigits (cs.take width ++ List.replicate (width - cs.length) '0') =
      ofDigits cs * 10 ^ width / 10 ^ cs.length := by
  rw [ofDigits_append, ofDigits_zeros, Nat.add_zero, List.length_replicate]
  rcases Nat.le_total cs.length width with hle | hle
  · obtain ⟨k, rfl⟩ := Nat.exists_eq_add_of_le hle
    rw [List.take_of_length_le hle, Nat.add_sub_cancel_left, Nat.pow_add, Nat.mul_left_comm,
      Nat.mul_div_cancel_left _ (Nat.pow_pos (by decide))]
  · obtain ⟨k, hk⟩ := Nat.exists_eq_add_of_le hle
    have hlength : (cs.drop width).length = k := by rw [List.length_drop]; omega
    have hrest : ofDigits (cs.drop width) < 10 ^ k := by
      rw [← hlength]
      exact ofDigits_lt fun c hc => h c (List.mem_of_mem_drop hc)
    have hall : ofDigits cs = ofDigits (cs.take width) * 10 ^ k + ofDigits (cs.drop width) := by
      rw [← hlength, ← ofDigits_append, List.take_append_drop]
    rw [Nat.sub_eq_zero_of_le hle, Nat.pow_zero, Nat.mul_one, hall, hk, Nat.pow_add, Nat.mul_comm,
      Nat.mul_div_mul_left _ _ (Nat.pow_pos (by decide))]
    refine (Nat.div_eq_of_lt_le ?_ ?_).symm
    · exact Nat.le_add_right _ _
    · rw [Nat.succ_mul]
      exact Nat.add_lt_add_left hrest _

lemma ofDigits_digits (n : ℕ) : ofDigits (digits n) = n := by
  have h : Nat.ofDigitChars 10 (Nat.toDigits 10 n) 0 = n :=
    Nat.ofDigitChars_toDigits (by decide) (by decide)
  rwa [Nat.ofDigitChars_eq_foldl] at h

lemma isDigit_of_mem_digits (h : c ∈ digits n) : c.isDigit = true :=
  Nat.isDigit_of_mem_toDigits (by decide) (by decide) h

lemma digits_ne_nil (n : ℕ) : digits n ≠ [] := Nat.toDigits_ne_nil

lemma ofDigits_padded (width n : ℕ) : ofDigits (padded width n) = n := by
  rw [padded, ofDigits_append, ofDigits_zeros, ofDigits_digits, Nat.zero_mul, Nat.zero_add]

lemma isDigit_of_mem_padded (h : c ∈ padded width n) : c.isDigit = true := by
  rcases List.mem_append.mp h with h | h
  · rw [List.eq_of_mem_replicate h]
    rfl
  · exact isDigit_of_mem_digits h

lemma le_length_padded (width n : ℕ) : width ≤ (padded width n).length := by
  rw [padded, List.length_append, List.length_replicate]
  omega

lemma padded_ne_nil (width n : ℕ) : padded width n ≠ [] :=
  List.append_ne_nil_of_right_ne_nil _ (digits_ne_nil n)

/-- A number that fits is padded to the width exactly. -/
lemma length_padded (hwidth : 0 < width) (h : n < 10 ^ width) : (padded width n).length = width := by
  have hlength : (digits n).length ≤ width := (Nat.length_toDigits_le_iff (by decide) hwidth).mpr h
  rw [padded, List.length_append, List.length_replicate]
  omega

lemma withoutTrailingZeros_append (cs : List Char) :
    ∃ k, withoutTrailingZeros cs ++ List.replicate k '0' = cs := by
  have hzeros : cs.rtakeWhile (· == '0') =
      List.replicate (cs.rtakeWhile (· == '0')).length '0' := by
    refine List.eq_replicate_of_mem fun c hc => ?_
    simpa using List.mem_rtakeWhile_imp hc
  refine ⟨(cs.rtakeWhile (· == '0')).length, ?_⟩
  rw [← hzeros]
  exact List.rdropWhile_append_rtakeWhile

lemma mem_of_mem_withoutTrailingZeros (h : c ∈ withoutTrailingZeros cs) : c ∈ cs := by
  obtain ⟨k, hk⟩ := withoutTrailingZeros_append cs
  rw [← hk]
  exact List.mem_append_left _ h

/-- What a fraction is written with: digits, at least one and not more than the width, to which zeros
are to be added again. -/
lemma withoutTrailingZeros_padded (hn : n ≠ 0) (h : n < 10 ^ width) :
    withoutTrailingZeros (padded width n) ≠ [] ∧
      (∀ c ∈ withoutTrailingZeros (padded width n), c.isDigit = true) ∧
      (withoutTrailingZeros (padded width n)).length ≤ width ∧
      ofDigits (withoutTrailingZeros (padded width n) ++
        List.replicate (width - (withoutTrailingZeros (padded width n)).length) '0') = n := by
  have hwidth : 0 < width := by
    rcases Nat.eq_zero_or_pos width with rfl | hwidth
    · omega
    · exact hwidth
  obtain ⟨k, hk⟩ := withoutTrailingZeros_append (padded width n)
  have hlength := congrArg List.length hk
  rw [List.length_append, List.length_replicate, length_padded hwidth h] at hlength
  have hzeros : width - (withoutTrailingZeros (padded width n)).length = k := by omega
  rw [hzeros, hk]
  refine ⟨fun hnil => hn ?_, fun c hc => ?_, by omega, ofDigits_padded width n⟩
  · rw [← ofDigits_padded width n, ← hk, hnil, List.nil_append, ofDigits_zeros]
  · exact isDigit_of_mem_padded (mem_of_mem_withoutTrailingZeros hc)

end PolicyDecision.Decimal

/-! Integers of 64 bits: what is read is one, and each is read back from its digits. -/

namespace PolicyDecision.Decimal

open Lexical (Flaw)
open Stateful

variable {limit n m : ℕ} {beyond : Flaw} {c : Char} {cs : List Char}

/-- The numbers of 64 bits with a sign. -/
def IsWord (n : ℤ) : Prop := leastInteger ≤ n ∧ n ≤ greatestInteger

lemma isWord_iff {i : ℤ} : IsWord i ↔ -9223372036854775808 ≤ i ∧ i ≤ 9223372036854775807 := Iff.rfl

lemma le_foldl (cs : List Char) (n : ℕ) :
    n ≤ cs.foldl (fun n c => 10 * n + digitValue c) n := by
  induction cs generalizing n with
  | nil => exact le_rfl
  | cons c cs ih =>
    have := ih (10 * n + digitValue c)
    rw [List.foldl_cons]
    omega

/-- Digits are read as their number if that is within the limit: the numbers on the way to it are
smaller. -/
lemma readNatural_of_le (hdigit : ∀ c ∈ cs, c.isDigit = true)
    (h : cs.foldl (fun n c => 10 * n + digitValue c) n ≤ limit) :
    readNatural limit beyond n cs = .ok (cs.foldl (fun n c => 10 * n + digitValue c) n) := by
  induction cs generalizing n with
  | nil => rfl
  | cons c cs ih =>
    obtain ⟨hc, hdigit⟩ := List.forall_mem_cons.mp hdigit
    rw [List.foldl_cons] at h ⊢
    have hnext : ¬limit < 10 * n + digitValue c := Nat.not_lt.mpr ((le_foldl cs _).trans h)
    rw [readNatural, if_pos hc]
    simp only [if_neg hnext]
    exact ih hdigit h

lemma readNatural_digits (h : n ≤ limit) : readNatural limit beyond 0 (digits n) = .ok n := by
  have hvalue : (digits n).foldl (fun n c => 10 * n + digitValue c) 0 = n := ofDigits_digits n
  rw [readNatural_of_le (fun _ => isDigit_of_mem_digits) (hvalue.le.trans h), hvalue]

lemma le_of_readNatural (hn : n ≤ limit) (h : readNatural limit beyond n cs = .ok m) :
    m ≤ limit := by
  fun_induction readNatural limit beyond n cs
  case case1 n =>
    cases h
    exact hn
  case case2 => cases h
  case case3 hnext ih => exact ih (Nat.not_lt.mp hnext) h
  case case4 => cases h

lemma isWord_of_readSigned {i : ℤ} (h : readSigned cs = .ok i) : IsWord i := by
  rw [isWord_iff]
  rw [readSigned.eq_def] at h
  split at h
  case h_1 => cases h
  case h_2 => cases h
  case h_3 =>
    obtain ⟨i, hi, rfl⟩ := except_map_eq_ok.mp h
    obtain ⟨n, hn, hcast⟩ := except_bind_eq_ok.mp hi
    cases hcast
    have hle : n ≤ 9223372036854775808 := le_of_readNatural (Nat.zero_le _) hn
    constructor <;> omega
  case h_4 =>
    obtain ⟨i, hi, rfl⟩ := except_map_eq_ok.mp h
    obtain ⟨n, hn, hcast⟩ := except_bind_eq_ok.mp hi
    cases hcast
    have hle : n ≤ 9223372036854775807 := le_of_readNatural (Nat.zero_le _) hn
    constructor <;> omega

lemma ne_of_isDigit (h : c.isDigit = true) : c ≠ '-' ∧ c ≠ '+' := by
  constructor
  · rintro rfl
    exact absurd h (by decide)
  · rintro rfl
    exact absurd h (by decide)

lemma readSigned_of_ne (hc : c ≠ '-') (cs : List Char) :
    readSigned (c :: cs) =
      (readNatural (Nat.pow 2 63 - 1) .tooLarge 0 (c :: cs)).map fun n : ℕ => (n : ℤ) := by
  rw [readSigned.eq_4 _ (by simp) (by simp [hc]) (by simp [hc])]
  cases readNatural (Nat.pow 2 63 - 1) .tooLarge 0 (c :: cs) <;> rfl

lemma readSigned_minus (h : cs ≠ []) : readSigned ('-' :: cs) =
    (readNatural (Nat.pow 2 63) .tooSmall 0 cs).map fun n : ℕ => -(n : ℤ) := by
  rw [readSigned]
  · cases readNatural (Nat.pow 2 63) .tooSmall 0 cs <;> rfl
  · exact h

lemma readSigned_digits (h : n ≤ Nat.pow 2 63 - 1) : readSigned (digits n) = .ok (n : ℤ) := by
  obtain ⟨c, cs, hcs⟩ := List.exists_cons_of_ne_nil (digits_ne_nil n)
  have hne : c ≠ '-' := (ne_of_isDigit (isDigit_of_mem_digits (n := n) (by simp [hcs]))).1
  rw [hcs, readSigned_of_ne hne, ← hcs, readNatural_digits h]
  rfl

lemma readSigned_minus_digits (h : n ≤ Nat.pow 2 63) :
    readSigned ('-' :: digits n) = .ok (-(n : ℤ)) := by
  rw [readSigned_minus (digits_ne_nil n), readNatural_digits h]
  rfl

lemma readSigned_ofInt {i : ℤ} (h : IsWord i) : readSigned (ofInt i) = .ok i := by
  obtain ⟨hleast, hgreatest⟩ := isWord_iff.mp h
  cases i with
  | ofNat n => exact readSigned_digits (Int.ofNat_le.mp hgreatest)
  | negSucc n => exact readSigned_minus_digits (show n + 1 ≤ 9223372036854775808 by omega)

lemma mem_ofInt {i : ℤ} (h : c ∈ ofInt i) : c = '-' ∨ c.isDigit = true := by
  cases i with
  | ofNat n => exact .inr (isDigit_of_mem_digits h)
  | negSucc n => exact (List.mem_cons.mp h).imp_right isDigit_of_mem_digits

lemma not_blank_ofInt {i : ℤ} : ∀ c ∈ ofInt i, Text.isBlank c = false := by
  intro c h
  rcases mem_ofInt h with rfl | h
  · decide
  · exact Text.isBlank_of_isDigit h

lemma dropWhile_ofInt (i : ℤ) : (ofInt i).dropWhile (· == '+') = ofInt i := by
  refine List.dropWhile_eq_self_iff.mpr fun hlength hplus => ?_
  have hne : (ofInt i).get ⟨0, hlength⟩ ≠ '+' := by
    rcases mem_ofInt (List.get_mem (ofInt i) ⟨0, hlength⟩) with h | h
    · rw [h]
      decide
    · exact (ne_of_isDigit h).2
  exact hne (beq_iff_eq.mp hplus)

theorem isWord_of_readInteger {text : String} {i : ℤ} (h : readInteger text = .ok i) : IsWord i :=
  isWord_of_readSigned (except_mapError_eq_ok.mp h)

theorem readInteger_ofInt {i : ℤ} (h : IsWord i) :
    readInteger (String.ofList (ofInt i)) = .ok i := by
  rw [readInteger, String.toList_ofList, Text.trimmed_of_not_blank not_blank_ofInt,
    dropWhile_ofInt, readSigned_ofInt h]
  rfl

end PolicyDecision.Decimal
