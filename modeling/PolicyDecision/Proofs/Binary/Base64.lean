import PolicyDecision.Proofs.Binary.RoundTrip
import PolicyDecision.Proofs.Stateful
import Mathlib.Algebra.Order.Ring.Nat
import Mathlib.Data.List.DropRight
import Mathlib.Data.List.GetD

/-! Texts in base 64: which they are, how many bytes they stand for, and how little they can differ
from the text that the bytes are written as. -/

namespace PolicyDecision.Binary.Base64

open Stateful

variable {n missing : ℕ} {c : Char} {codes : List ℕ} {text : List Char} {bs : List UInt8}

lemma length_alphabet : alphabet.length = 64 := rfl

lemma mem_alphabet_iff : c ∈ alphabet ↔ ∃ n < 64, symbol n = c := by
  rw [List.mem_iff_getElem]
  constructor
  · rintro ⟨n, hn, rfl⟩
    exact ⟨n, length_alphabet ▸ hn, List.getD_eq_getElem _ _ hn⟩
  · rintro ⟨n, hn, rfl⟩
    have hlength : n < alphabet.length := length_alphabet.symm ▸ hn
    exact ⟨n, hlength, (List.getD_eq_getElem _ _ hlength).symm⟩

lemma sextet?_eq_some : sextet? c = some n ↔ n < 64 ∧ symbol n = c := by
  constructor
  · intro h
    have hmem : c ∈ alphabet := by
      by_contra hmem
      rw [sextet?, List.idxOf?_eq_none_iff.mpr hmem] at h
      cases h
    obtain ⟨m, hm, rfl⟩ := mem_alphabet_iff.mp hmem
    rw [sextet?_symbol hm] at h
    cases h
    exact ⟨hm, rfl⟩
  · rintro ⟨hn, rfl⟩
    exact sextet?_symbol hn

lemma sextets_eq_ok : sextets text = .ok codes ↔ text = codes.map symbol ∧ ∀ n ∈ codes, n < 64 := by
  constructor
  · intro h
    induction text generalizing codes with
    | nil =>
      cases h
      simp
    | cons c text ih =>
      rw [sextets] at h
      cases hc : sextet? c with
      | none =>
        rw [hc] at h
        cases h
      | some n =>
        rw [hc] at h
        obtain ⟨rest, hrest, rfl⟩ := except_map_eq_ok.mp h
        obtain ⟨hn, rfl⟩ := sextet?_eq_some.mp hc
        obtain ⟨rfl, hlt⟩ := ih hrest
        exact ⟨rfl, List.forall_mem_cons.mpr ⟨hn, hlt⟩⟩
  · rintro ⟨rfl, h⟩
    exact sextets_map_symbol h

/-- A text ends in as much padding as is counted. -/
lemma exists_padding (text : List Char) :
    ∃ body, text = body ++ List.replicate (padding text) '=' := by
  have hall : text.rtakeWhile (· == '=') = List.replicate (padding text) '=' := by
    have hlength : padding text = (text.rtakeWhile (· == '=')).length := by
      rw [padding, List.rtakeWhile, List.length_reverse]
    rw [hlength]
    refine List.eq_replicate_of_mem fun c hc => ?_
    simpa using List.mem_rtakeWhile_imp hc
  refine ⟨text.rdropWhile (· == '='), ?_⟩
  rw [← hall]
  exact List.rdropWhile_append_rtakeWhile.symm

lemma decode_eq_ok_iff : decode text = .ok bs ↔ ∃ codes missing, Written text bs codes missing := by
  constructor
  · intro h
    obtain ⟨body, hbody⟩ := exists_padding text
    have hlength := congrArg List.length hbody
    rw [List.length_append, List.length_replicate] at hlength
    have htake : text.take (text.length - padding text) = body := by
      conv_lhs => rw [hlength, Nat.add_sub_cancel, hbody]
      exact List.take_left' rfl
    rw [decode, htake] at h
    split_ifs at h with hgroups hmissing
    obtain ⟨codes, hcodes, rfl⟩ := except_map_eq_ok.mp h
    obtain ⟨rfl, hlt⟩ := sextets_eq_ok.mp hcodes
    rw [List.length_map] at hlength
    exact ⟨codes, padding text, hbody, Nat.not_lt.mp hmissing, hlt,
      by rw [← hlength]; exact not_not.mp hgroups, rfl⟩
  · rintro ⟨codes, missing, h⟩
    exact h.decode_eq

/-- A text in base 64: symbols of the alphabet, filled up to groups of four with at most two `=`. -/
def IsText (text : List Char) : Prop :=
  text.length % 4 = 0 ∧ ∃ body missing, text = body ++ List.replicate missing '=' ∧
    (∀ c ∈ body, c ∈ alphabet) ∧ missing ≤ 2

lemma exists_codes (h : ∀ c ∈ text, c ∈ alphabet) :
    ∃ codes : List ℕ, text = codes.map symbol ∧ ∀ n ∈ codes, n < 64 := by
  induction text with
  | nil => exact ⟨[], rfl, List.forall_mem_nil _⟩
  | cons c text ih =>
    obtain ⟨hc, htext⟩ := List.forall_mem_cons.mp h
    obtain ⟨codes, rfl, hlt⟩ := ih htext
    obtain ⟨n, hn, rfl⟩ := mem_alphabet_iff.mp hc
    exact ⟨n :: codes, rfl, List.forall_mem_cons.mpr ⟨hn, hlt⟩⟩

lemma isText_iff : IsText text ↔ ∃ bs codes missing, Written text bs codes missing := by
  constructor
  · rintro ⟨hgroups, body, missing, rfl, hbody, hmissing⟩
    obtain ⟨codes, rfl, hlt⟩ := exists_codes hbody
    refine ⟨bytes ⟨0, 0⟩ codes, codes, missing, rfl, hmissing, hlt, ?_, rfl⟩
    simpa using hgroups
  · rintro ⟨bs, codes, missing, h⟩
    refine ⟨?_, codes.map symbol, missing, h.text_eq, ?_, h.missing_le⟩
    · rw [h.text_eq, List.length_append, List.length_map, List.length_replicate]
      exact h.length_mod
    · intro c hc
      obtain ⟨n, hn, rfl⟩ := List.mem_map.mp hc
      exact mem_alphabet_iff.mpr ⟨n, h.lt_of_mem n hn, rfl⟩

section Characters

/-- A character outside of ASCII has bytes outside of it. -/
lemma exists_high_byte (h : 128 ≤ c.toNat) : ∃ b ∈ String.utf8EncodeChar c, 128 ≤ b.toNat := by
  have hval : ¬c.val.toNat ≤ 127 := Nat.not_le.mpr h
  simp only [String.utf8EncodeChar, if_neg hval]
  -- the first byte says how many follow, in bits that are 1
  split_ifs
  all_goals
    refine ⟨_, List.mem_cons_self, ?_⟩
    rw [UInt8.toNat_ofNat']
    omega

/-- A byte is the number of a character. -/
lemma toNat_ofNat_byte (b : UInt8) : (Char.ofNat b.toNat).toNat = b.toNat := by
  have hvalid : b.toNat.isValidChar := .inl (b.toNat_lt.trans (by decide))
  rw [Char.ofNat, dif_pos hvalid]
  rfl

lemma lt_of_isAsciiBlank (h : Text.isAsciiBlank c = true) : c.toNat < 128 := by
  have hcases : c = ' ' ∨ c = '\t' ∨ c = '\n' ∨ c = '\x0c' ∨ c = '\r' := by
    simpa [Text.isAsciiBlank, or_assoc] using h
  rcases hcases with rfl | rfl | rfl | rfl | rfl <;> decide

lemma exists_high_symbol (hc : c ∈ text) (h : 128 ≤ c.toNat) :
    ∃ s ∈ symbols text, 128 ≤ s.toNat := by
  obtain ⟨b, hb, hhigh⟩ := exists_high_byte h
  rw [← toNat_ofNat_byte b] at hhigh
  refine ⟨Char.ofNat b.toNat, List.mem_filter.mpr ⟨?_, ?_⟩, hhigh⟩
  · exact List.mem_map.mpr ⟨b, List.mem_flatMap.mpr ⟨c, hc, hb⟩, rfl⟩
  · rw [Bool.not_eq_true']
    exact Bool.eq_false_iff.mpr fun hblank => absurd (lt_of_isAsciiBlank hblank) (by omega)

/-- The text without white space. -/
def unspaced (text : List Char) : List Char := text.filter (! Text.isAsciiBlank ·)

lemma lt_of_unspaced (h : ∀ c ∈ unspaced text, c.toNat < 128) : ∀ c ∈ text, c.toNat < 128 := by
  intro c hc
  by_cases hblank : Text.isAsciiBlank c = true
  · exact lt_of_isAsciiBlank hblank
  · refine h c (List.mem_filter.mpr ⟨hc, ?_⟩)
    rw [Bool.eq_false_iff.mpr hblank]
    rfl

lemma lt_of_symbols (h : ∀ c ∈ symbols text, c.toNat < 128) : ∀ c ∈ text, c.toNat < 128 := by
  intro c hc
  by_contra hhigh
  obtain ⟨s, hs, hsymbol⟩ := exists_high_symbol hc (Nat.not_lt.mp hhigh)
  exact absurd (h s hs) (Nat.not_lt.mpr hsymbol)

/-- It makes no difference whether white space is dropped from the characters of a text or from its
bytes, for a text outside of ASCII is refused in any case. -/
lemma read_eq_ok_iff {text : String} : read text = .ok bs ↔
    ∃ codes missing, Written (unspaced text.toList) bs codes missing := by
  rw [read, except_mapError_eq_ok, decode_eq_ok_iff]
  constructor
  · rintro ⟨codes, missing, h⟩
    have hsymbols : symbols text.toList = unspaced text.toList :=
      symbols_of_ascii (lt_of_symbols fun c hc => (h.plain hc).1)
    exact ⟨codes, missing, hsymbols ▸ h⟩
  · rintro ⟨codes, missing, h⟩
    have hsymbols : symbols text.toList = unspaced text.toList :=
      symbols_of_ascii (lt_of_unspaced fun c hc => (h.plain hc).1)
    exact ⟨codes, missing, hsymbols ▸ h⟩

end Characters

section Accumulator

variable {acc : Accumulator}

/-- The accumulator each time that a sextet has come to it, before a byte is taken. -/
def trail (acc : Accumulator) : List ℕ → List Accumulator
  | [] => []
  | sextet :: sextets => acc.append sextet :: trail (acc.append sextet).take.2 sextets

/-- Fewer bits than a byte has, and no others. -/
def Accumulator.IsRest (acc : Accumulator) : Prop := acc.bits < 8 ∧ acc.value < 2 ^ acc.bits

lemma append_lt (h : acc.IsRest) (hn : n < 64) :
    (acc.append n).value < 2 ^ (acc.append n).bits := by
  have hpow : 2 ^ (acc.bits + 6) = 2 ^ acc.bits * 64 := Nat.pow_add _ _ _
  have hvalue := h.2
  simp only [Accumulator.append, hpow]
  omega

lemma isRest_take (hbits : acc.bits < 16) (hvalue : acc.value < 2 ^ acc.bits) :
    acc.take.2.IsRest := by
  rw [Accumulator.take]
  split
  case isTrue h => exact ⟨by simp only; omega, Nat.mod_lt _ (Nat.two_pow_pos _)⟩
  case isFalse h => exact ⟨Nat.not_le.mp h, hvalue⟩

lemma isRest_next (h : acc.IsRest) (hn : n < 64) : (acc.append n).take.2.IsRest := by
  refine isRest_take ?_ (append_lt h hn)
  have hbits := h.1
  simp only [Accumulator.append]
  omega

/-- Six bits come to fewer than eight, so that there are never more than thirteen. -/
lemma trail_bounded (h : acc.IsRest) (hcodes : ∀ n ∈ codes, n < 64) :
    ∀ next ∈ trail acc codes, next.bits < 14 ∧ next.value < 2 ^ next.bits := by
  induction codes generalizing acc with
  | nil => simp [trail]
  | cons n codes ih =>
    obtain ⟨hn, hcodes⟩ := List.forall_mem_cons.mp hcodes
    refine List.forall_mem_cons.mpr ⟨⟨?_, append_lt h hn⟩, ih (isRest_next h hn) hcodes⟩
    have hbits := h.1
    simp only [Accumulator.append]
    omega

lemma bytes_eq_flatMap_trail (acc : Accumulator) (codes : List ℕ) :
    bytes acc codes = (trail acc codes).flatMap fun next => next.take.1 := by
  induction codes generalizing acc with
  | nil => rfl
  | cons n codes ih =>
    rw [bytes, trail, List.flatMap_cons, ← ih]

lemma take_lengths (acc : Accumulator) (h : acc.bits < 16) :
    acc.take.1.length = acc.bits / 8 ∧ acc.take.2.bits = acc.bits % 8 := by
  rw [Accumulator.take]
  split
  · simp only [List.length_cons, List.length_nil]
    omega
  · simp only [List.length_nil]
    omega

/-- As many bytes are taken as there are eights in the bits. -/
lemma length_bytes (hbits : acc.bits < 8) :
    (bytes acc codes).length = (acc.bits + 6 * codes.length) / 8 := by
  induction codes generalizing acc with
  | nil =>
    rw [bytes, List.length_nil, List.length_nil]
    omega
  | cons n codes ih =>
    have happend : (acc.append n).bits = acc.bits + 6 := rfl
    obtain ⟨htaken, hrest⟩ := take_lengths (acc.append n) (by omega)
    rw [happend] at htaken hrest
    have hbytes : bytes acc (n :: codes) =
        (acc.append n).take.1 ++ bytes (acc.append n).take.2 codes := rfl
    rw [hbytes, List.length_append, htaken, ih (by omega), hrest, List.length_cons]
    omega

end Accumulator

section Canonical

/-- The sextets without the bits that fill no byte. -/
def cleared : List ℕ → List ℕ
  | s₁ :: s₂ :: s₃ :: s₄ :: rest => s₁ :: s₂ :: s₃ :: s₄ :: cleared rest
  | [s₁, s₂, s₃] => [s₁, s₂, s₃ / 4 * 4]
  | [s₁, s₂] => [s₁, s₂ / 16 * 16]
  | codes => codes

lemma length_cleared (codes : List ℕ) : (cleared codes).length = codes.length := by
  fun_induction cleared codes <;> simp [*]

/-- Only the last sextet can change, and that only if the group is not full. -/
lemma getElem?_cleared {i : ℕ} (h : codes.length % 4 = 0 ∨ i + 1 ≠ codes.length) :
    (cleared codes)[i]? = codes[i]? := by
  fun_induction cleared codes generalizing i
  case case1 s₁ s₂ s₃ s₄ rest ih =>
    simp only [List.length_cons] at h
    match i with
    | 0 | 1 | 2 | 3 => rfl
    | i + 4 =>
      simp only [List.getElem?_cons_succ]
      exact ih (by omega)
  case case2 s₁ s₂ s₃ =>
    match i with
    | 0 | 1 => rfl
    | 2 => simp at h
    | i + 3 => rfl
  case case3 s₁ s₂ =>
    match i with
    | 0 => rfl
    | 1 => simp at h
    | i + 2 => rfl
  case case4 => rfl

/-- What the bytes of the sextets are written as. -/
lemma encode_bytes (hcodes : ∀ n ∈ codes, n < 64) (hmissing : missing ≤ 2)
    (hgroups : (codes.length + missing) % 4 = 0) :
    encode (bytes ⟨0, 0⟩ codes) =
      (cleared codes).map symbol ++ List.replicate missing '=' := by
  fun_induction cleared codes
  case case1 s₁ s₂ s₃ s₄ rest ih =>
    simp only [List.forall_mem_cons] at hcodes
    obtain ⟨h₁, h₂, h₃, h₄, hrest⟩ := hcodes
    simp only [List.length_cons] at hgroups
    rw [bytes_four, encode, ih hrest (by omega)]
    simp only [UInt8.toNat_ofNat', List.map_cons, List.cons_append, List.cons.injEq, and_true]
    refine ⟨congrArg symbol ?_, congrArg symbol ?_, congrArg symbol ?_, congrArg symbol ?_⟩
    all_goals omega
  case case2 s₁ s₂ s₃ =>
    simp only [List.forall_mem_cons] at hcodes
    obtain ⟨h₁, h₂, h₃, -⟩ := hcodes
    simp only [List.length_cons, List.length_nil] at hgroups
    obtain rfl : missing = 1 := by omega
    rw [bytes_three, encode]
    simp only [UInt8.toNat_ofNat', List.map_cons, List.map_nil, List.replicate_succ,
      List.replicate_zero, List.cons_append, List.nil_append, List.cons.injEq, and_true]
    refine ⟨congrArg symbol ?_, congrArg symbol ?_, congrArg symbol ?_⟩
    all_goals omega
  case case3 s₁ s₂ =>
    simp only [List.forall_mem_cons] at hcodes
    obtain ⟨h₁, h₂, -⟩ := hcodes
    simp only [List.length_cons, List.length_nil] at hgroups
    obtain rfl : missing = 2 := by omega
    rw [bytes_two, encode]
    simp only [UInt8.toNat_ofNat', List.map_cons, List.map_nil, List.replicate_succ,
      List.replicate_zero, List.cons_append, List.nil_append, List.cons.injEq, and_true]
    refine ⟨congrArg symbol ?_, congrArg symbol ?_⟩
    all_goals omega
  case case4 codes hfour hthree htwo =>
    -- a group of one sextet would have to be filled up with three symbols
    match codes with
    | [] =>
      obtain rfl : missing = 0 := by
        simp only [List.length_nil] at hgroups
        omega
      rfl
    | [s] =>
      simp only [List.length_cons, List.length_nil] at hgroups
      omega
    | [s₁, s₂] => exact absurd rfl (htwo s₁ s₂)
    | [s₁, s₂, s₃] => exact absurd rfl (hthree s₁ s₂ s₃)
    | s₁ :: s₂ :: s₃ :: s₄ :: rest => exact absurd rfl (hfour s₁ s₂ s₃ s₄ rest)

end Canonical

section Written

lemma Written.encode_eq (h : Written text bs codes missing) :
    encode bs = (cleared codes).map symbol ++ List.replicate missing '=' := by
  rw [← h.bytes_eq]
  exact encode_bytes h.lt_of_mem h.missing_le h.length_mod

lemma Written.length_eq (h : Written text bs codes missing) :
    text.length = codes.length + missing := by
  rw [h.text_eq, List.length_append, List.length_map, List.length_replicate]

lemma Written.count_eq (h : Written text bs codes missing) : text.count '=' = missing := by
  have hnone : (codes.map symbol).count '=' = 0 := by
    refine List.count_eq_zero.mpr fun hmem => ?_
    obtain ⟨n, hn, heq⟩ := List.mem_map.mp hmem
    exact (symbol_plain (h.lt_of_mem n hn)).2.2 heq
  rw [h.text_eq, List.count_append, hnone, List.count_replicate_self, Nat.zero_add]

/-- Of four symbols three bytes are made, and one fewer for each that is missing. -/
lemma Written.length_bytes_eq (h : Written text bs codes missing) :
    4 * (bs.length + missing) = 3 * text.length := by
  have hlength : bs.length = (0 + 6 * codes.length) / 8 := by
    rw [← h.bytes_eq]
    exact length_bytes (by decide)
  have hgroups := h.length_mod
  have hmissing := h.missing_le
  rw [h.length_eq]
  omega

/-- The last symbol before the padding may have bits that fill no byte. -/
lemma Written.getElem?_encode (h : Written text bs codes missing) {i : ℕ}
    (hi : missing = 0 ∨ i + 1 + missing ≠ text.length) : (encode bs)[i]? = text[i]? := by
  have hcleared : (cleared codes)[i]? = codes[i]? := by
    have hgroups := h.length_mod
    rw [h.length_eq] at hi
    exact getElem?_cleared (by omega)
  rw [h.encode_eq, h.text_eq, List.getElem?_append, List.getElem?_append, List.length_map,
    List.length_map, length_cleared, List.getElem?_map, List.getElem?_map, hcleared]

end Written

/-- Bytes are read back from their text. A text is read if it is one in base 64 but for white space:
of its groups of four symbols come three bytes, and one fewer for each `=`. What these bytes are
written as differs from the text at most in the last symbol before the padding. While symbols are
read, the accumulator needs no more than its bits, and never more than 32. -/
theorem codec_exact :
    (∀ bs, read (String.ofList (encode bs)) = .ok bs) ∧
    (∀ text : String, (∃ bs, read text = .ok bs) ↔ IsText (unspaced text.toList)) ∧
    (∀ (text : String) (bs : List UInt8), read text = .ok bs →
      let kept := unspaced text.toList
      4 * (bs.length + kept.count '=') = 3 * kept.length ∧
      read (String.ofList (encode bs)) = .ok bs ∧
      (encode bs).length = kept.length ∧
      ∀ i, kept.count '=' = 0 ∨ i + 1 + kept.count '=' ≠ kept.length →
        (encode bs)[i]? = kept[i]?) ∧
    ∀ (part : List Char) (codes : List ℕ), sextets part = .ok codes →
      bytes ⟨0, 0⟩ codes = ((trail ⟨0, 0⟩ codes).flatMap fun acc => acc.take.1) ∧
      ∀ acc ∈ trail ⟨0, 0⟩ codes, acc.bits ≤ 32 ∧ acc.value < 2 ^ acc.bits := by
  refine ⟨read_encode, fun text => ?_, fun text bs h => ?_, fun part codes h => ?_⟩
  · simp only [isText_iff, read_eq_ok_iff]
  · obtain ⟨codes, missing, h⟩ := read_eq_ok_iff.mp h
    simp only [h.count_eq]
    refine ⟨h.length_bytes_eq, read_encode bs, ?_, fun i => h.getElem?_encode⟩
    rw [h.encode_eq, List.length_append, List.length_map, length_cleared, List.length_replicate,
      h.length_eq]
  · refine ⟨bytes_eq_flatMap_trail _ _, fun acc hacc => ?_⟩
    have hempty : Accumulator.IsRest ⟨0, 0⟩ := ⟨by decide, by decide⟩
    obtain ⟨hbits, hvalue⟩ := trail_bounded hempty (sextets_eq_ok.mp h).2 acc hacc
    exact ⟨by omega, hvalue⟩

/-- The last symbol before the padding has two bits that fill no byte, and here they are not zero. -/
theorem codec_exact_trailing :
    read "Zm\n9=" = .ok [0x66, 0x6F] ∧ encode [0x66, 0x6F] = "Zm8=".toList ∧
    read (String.ofList (encode [0x66, 0x6F])) = .ok [0x66, 0x6F] ∧
    (encode [0x66, 0x6F])[1]? = (unspaced "Zm\n9=".toList)[1]? ∧
    sextets "Zm9".toList = .ok [25, 38, 61] ∧
    (⟨1638, 12⟩ : Accumulator) ∈ trail ⟨0, 0⟩ [25, 38, 61] ∧ 1638 < 2 ^ 12 := by
  have hread : read "Zm\n9=" = .ok [0x66, 0x6F] := by decide
  have hsextets : sextets "Zm9".toList = .ok [25, 38, 61] := by decide
  have hmem : (⟨1638, 12⟩ : Accumulator) ∈ trail ⟨0, 0⟩ [25, 38, 61] := by decide
  obtain ⟨-, -, htext, htrail⟩ := codec_exact
  obtain ⟨-, hagain, -, hsymbols⟩ := htext _ _ hread
  exact ⟨hread, by decide, hagain, hsymbols 1 (by decide), hsextets, hmem,
    ((htrail _ _ hsextets).2 _ hmem).2⟩

end PolicyDecision.Binary.Base64
