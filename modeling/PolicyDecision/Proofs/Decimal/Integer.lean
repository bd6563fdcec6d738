import PolicyDecision.Proofs.Lexical.Grammar
import PolicyDecision.Value

/-! Which texts are read as integers. A literal has one sign at most, but a plus in front is
dropped as often as it stands there, and a minus may follow it. -/

namespace PolicyDecision.Decimal

open Lexical Stateful

variable {beyond : Flaw} {limit m n : ℕ} {i : ℤ} {c : Char}
variable {cs : List Char} {text : String}

/-- Digits, with a minus in front or without it, and the integer of 64 bits that they write. -/
inductive SignedText : Grammar ℤ
  | digits {cs : List Char} {n : ℕ} (h : Numeral cs n) (hword : IsWord n) : SignedText cs n
  | minus {cs : List Char} {n : ℕ} (h : Numeral cs n) (hword : IsWord (-n)) :
    SignedText ('-' :: cs) (-n)

/-- The literals of integers: where there is no minus, a plus may stand in front. -/
inductive IntegerText : Grammar ℤ
  | signed {cs : List Char} {i : ℤ} (h : SignedText cs i) : IntegerText cs i
  | plus {cs : List Char} {n : ℕ} (h : Numeral cs n) (hword : IsWord n) : IntegerText ('+' :: cs) n

/-- Two signs stand in front, the first of them a plus. -/
def DoublySigned (cs : List Char) : Prop := ['+', '+'] <+: cs ∨ ['+', '-'] <+: cs

lemma isDigit_of_readNatural (h : readNatural limit beyond n cs = .ok m) :
    (∀ c ∈ cs, c.isDigit = true) ∧ cs.foldl (fun n c => 10 * n + digitValue c) n = m := by
  fun_induction readNatural limit beyond n cs with
  | case1 => simpa using h
  | case2 => cases h
  | case3 n c cs hc next hnext ih =>
    obtain ⟨hdigit, hvalue⟩ := ih h
    exact ⟨List.forall_mem_cons.mpr ⟨hc, hdigit⟩, hvalue⟩
  | case4 => cases h

/-- The limit is the only thing besides the digits that counts, since no number on the way is
greater than the last. -/
lemma readNatural_eq_ok_iff (hne : cs ≠ []) (hlimit : limit < Nat.pow 2 64) :
    readNatural limit beyond 0 cs = .ok n ↔ Numeral cs n ∧ n ≤ limit := by
  constructor
  · intro h
    obtain ⟨hdigit, hvalue⟩ := isDigit_of_readNatural h
    have hn : n ≤ limit := le_of_readNatural (Nat.zero_le limit) h
    exact ⟨⟨hne, hdigit, hvalue, hn.trans_lt hlimit⟩, hn⟩
  · rintro ⟨⟨-, hdigit, rfl, -⟩, hn⟩
    exact readNatural_of_le hdigit hn

lemma isWord_natCast : IsWord n ↔ n ≤ Nat.pow 2 63 - 1 := by
  simp only [isWord_iff, Nat.pow_eq, Nat.reducePow, Nat.add_one_sub_one]
  omega

lemma isWord_neg_natCast : IsWord (-n) ↔ n ≤ Nat.pow 2 63 := by
  simp only [isWord_iff, Nat.pow_eq, Nat.reducePow]
  omega

lemma head_ne_of_numeral (h : Numeral (c :: cs) n) : c ≠ '-' ∧ c ≠ '+' :=
  ne_of_isDigit (h.isDigit c List.mem_cons_self)

lemma readSigned_cons_eq_ok_iff (hc : c ≠ '-') :
    readSigned (c :: cs) = .ok i ↔ ∃ n : ℕ, (Numeral (c :: cs) n ∧ IsWord n) ∧ (n : ℤ) = i := by
  simp only [readSigned_of_ne hc, except_map_eq_ok, isWord_natCast,
    readNatural_eq_ok_iff (List.cons_ne_nil c cs) (show Nat.pow 2 63 - 1 < Nat.pow 2 64 by decide)]

lemma readSigned_minus_eq_ok_iff (hne : cs ≠ []) :
    readSigned ('-' :: cs) = .ok i ↔ ∃ n : ℕ, (Numeral cs n ∧ IsWord (-n)) ∧ -(n : ℤ) = i := by
  simp only [readSigned_minus hne, except_map_eq_ok, isWord_neg_natCast,
    readNatural_eq_ok_iff hne (show Nat.pow 2 63 < Nat.pow 2 64 by decide)]

theorem readSigned_eq_ok_iff : readSigned cs = .ok i ↔ SignedText cs i := by
  constructor
  · intro h
    rcases cs with _ | ⟨c, cs⟩
    · cases h
    by_cases hc : c = '-'
    · subst hc
      have hne : cs ≠ [] := by
        rintro rfl
        cases h
      obtain ⟨n, ⟨hn, hword⟩, rfl⟩ := (readSigned_minus_eq_ok_iff hne).mp h
      exact .minus hn hword
    · obtain ⟨n, ⟨hn, hword⟩, rfl⟩ := (readSigned_cons_eq_ok_iff hc).mp h
      exact .digits hn hword
  · intro h
    cases h with
    | @digits cs n h hword =>
      obtain ⟨c, cs, rfl⟩ := List.exists_cons_of_ne_nil h.ne_nil
      exact (readSigned_cons_eq_ok_iff (head_ne_of_numeral h).1).mpr ⟨n, ⟨h, hword⟩, rfl⟩
    | @minus cs n h hword =>
      exact (readSigned_minus_eq_ok_iff h.ne_nil).mpr ⟨n, ⟨h, hword⟩, rfl⟩

lemma readInteger_eq_ok_iff : readInteger text = .ok i ↔
    SignedText ((Text.trimmed text.toList).dropWhile (· == '+')) i := by
  rw [readInteger, except_mapError_eq_ok, readSigned_eq_ok_iff]

/-- What is signed already does not begin with a plus. -/
lemma SignedText.head_ne (h : SignedText (c :: cs) i) : c ≠ '+' := by
  cases h with
  | digits h => exact (head_ne_of_numeral h).2
  | minus => decide

/-- All the pluses are dropped. -/
lemma signedText_dropWhile_iff : SignedText (cs.dropWhile (· == '+')) i ↔
    ∃ pluses ds, cs = pluses ++ ds ∧ (∀ c ∈ pluses, c = '+') ∧ SignedText ds i := by
  constructor
  · intro h
    refine ⟨cs.takeWhile (· == '+'), _, List.takeWhile_append_dropWhile.symm, ?_, h⟩
    intro c hc
    simpa using List.mem_takeWhile_imp hc
  · rintro ⟨pluses, ds, rfl, hpluses, h⟩
    rw [List.dropWhile_append_of_pos (by simpa using hpluses)]
    cases ds with
    | nil => exact h
    | cons c ds => rwa [List.dropWhile_cons_of_neg (by simpa using h.head_ne)]

lemma not_doublySigned_of_signedText (h : SignedText cs i) : ¬DoublySigned cs := by
  rintro (⟨rest, rfl⟩ | ⟨rest, rfl⟩)
  · exact h.head_ne rfl
  · exact h.head_ne rfl

/-- One sign is all that a literal has. -/
lemma IntegerText.not_doublySigned (h : IntegerText cs i) : ¬DoublySigned cs := by
  cases h with
  | signed h => exact not_doublySigned_of_signedText h
  | plus h =>
    rintro (⟨rest, hrest⟩ | ⟨rest, hrest⟩)
    · cases hrest
      exact (head_ne_of_numeral h).2 rfl
    · cases hrest
      exact (head_ne_of_numeral h).1 rfl

/-- Up to one plus is right, and two are not. -/
lemma exists_pluses_iff (hcs : ¬DoublySigned cs) :
    (∃ pluses ds, cs = pluses ++ ds ∧ (∀ c ∈ pluses, c = '+') ∧ SignedText ds i) ↔
      IntegerText cs i := by
  constructor
  · rintro ⟨pluses, ds, rfl, hpluses, h⟩
    match pluses with
    | [] => exact .signed h
    | [c] =>
      obtain rfl : c = '+' := by simpa using hpluses
      cases h with
      | digits h hword => exact .plus h hword
      | minus h => exact absurd (.inr ⟨_, rfl⟩) hcs
    | c :: d :: rest =>
      obtain ⟨rfl, rfl, -⟩ : c = '+' ∧ d = '+' ∧ _ := by simpa using hpluses
      exact absurd (.inl ⟨_, rfl⟩) hcs
  · intro h
    cases h with
    | signed h => exact ⟨[], cs, rfl, by simp, h⟩
    | @plus ds n h hword => exact ⟨['+'], ds, rfl, by simp, .digits h hword⟩

end PolicyDecision.Decimal

namespace PolicyDecision.Value

open Decimal Stateful

lemma read_integer_eq_ok_iff {text : String} {v : Value} :
    read .integer text = .ok v ↔ ∃ i, readInteger text = .ok i ∧ v = .integer i := by
  rw [read, except_map_eq_ok]
  simp only [eq_comm]

/-- A text is read as an integer just if, without the white space around it, it is any number of
pluses, then perhaps a minus, then digits of a number in 64 bits. Where no two signs stand in front
these are the literals of integers, and no literal has two signs. -/
theorem integers_by_grammar (text : String) (v : Value) :
    (read .integer text = .ok v ↔ ∃ pluses ds i, Text.trimmed text.toList = pluses ++ ds ∧
      (∀ c ∈ pluses, c = '+') ∧ SignedText ds i ∧ v = .integer i) ∧
    (¬DoublySigned (Text.trimmed text.toList) → (read .integer text = .ok v ↔
      ∃ i, IntegerText (Text.trimmed text.toList) i ∧ v = .integer i)) ∧
    ∀ i, IntegerText (Text.trimmed text.toList) i → ¬DoublySigned (Text.trimmed text.toList) := by
  have hread : read .integer text = .ok v ↔ ∃ i, (∃ pluses ds, Text.trimmed text.toList =
      pluses ++ ds ∧ (∀ c ∈ pluses, c = '+') ∧ SignedText ds i) ∧ v = .integer i := by
    simp only [read_integer_eq_ok_iff, readInteger_eq_ok_iff, signedText_dropWhile_iff]
  refine ⟨hread.trans ?_, fun hsigns => ?_, fun _ h => h.not_doublySigned⟩
  · constructor
    · rintro ⟨i, ⟨pluses, ds, htext, hpluses, h⟩, hv⟩
      exact ⟨pluses, ds, i, htext, hpluses, h, hv⟩
    · rintro ⟨pluses, ds, i, htext, hpluses, h, hv⟩
      exact ⟨i, ⟨pluses, ds, htext, hpluses, h⟩, hv⟩
  · rw [hread]
    simp only [exists_pluses_iff hsigns]

/-- The least integer, with white space around it. -/
theorem integers_by_grammar_least :
    ¬DoublySigned (Text.trimmed " -9223372036854775808\t".toList) ∧
      read .integer " -9223372036854775808\t" = .ok (.integer leastInteger) := by
  have htrimmed : Text.trimmed " -9223372036854775808\t".toList = ofInt leastInteger := by
    decide
  have htext : IntegerText (Text.trimmed " -9223372036854775808\t".toList) leastInteger := by
    rw [htrimmed]
    exact .signed (.minus (Lexical.Numeral.digits (by decide)) (isWord_iff.mpr (by decide)))
  obtain ⟨-, hread, hsigns⟩ :=
    integers_by_grammar " -9223372036854775808\t" (.integer leastInteger)
  exact ⟨hsigns _ htext, (hread (hsigns _ htext)).mpr ⟨_, htext, rfl⟩⟩

/-- A plus in front of a minus is no literal, and is read as if the plus were not there. -/
theorem read_of_plus_minus :
    read .integer "+-5" = .ok (.integer (-5)) ∧
      ∀ i, ¬IntegerText (Text.trimmed "+-5".toList) i := by
  have hsigns : DoublySigned (Text.trimmed "+-5".toList) := .inr ⟨['5'], rfl⟩
  exact ⟨rfl, fun _ h => h.not_doublySigned hsigns⟩

end PolicyDecision.Value
