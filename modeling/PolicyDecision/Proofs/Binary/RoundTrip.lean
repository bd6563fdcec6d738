import PolicyDecision.Binary
import PolicyDecision.Proofs.Text.Split

/-! Bytes are read back from the text that they are written as, in hexadecimal digits and in
base 64. -/

namespace PolicyDecision.Binary

namespace Hex

variable {n : ℕ}

lemma digitValue?_upperDigit (h : n < 16) : digitValue? (upperDigit n) = some n := by
  have hall : ∀ n < 16, digitValue? (upperDigit n) = some n := by decide
  exact hall n h

lemma isBlank_upperDigit (h : n < 16) : Text.isBlank (upperDigit n) = false := by
  have hall : ∀ n < 16, Text.isBlank (upperDigit n) = false := by decide
  exact hall n h

lemma decode_encode (bytes : List UInt8) : decode (encode bytes) = some bytes := by
  induction bytes with
  | nil => rfl
  | cons b bytes ih =>
    have hbyte : b.toNat < 256 := b.toNat_lt
    have hjoin : UInt8.ofNat (16 * (b.toNat / 16) + b.toNat % 16) = b := by
      rw [Nat.div_add_mod, UInt8.ofNat_toNat]
    have hcons : encode (b :: bytes) =
        upperDigit (b.toNat / 16) :: upperDigit (b.toNat % 16) :: encode bytes := rfl
    rw [hcons, decode, digitValue?_upperDigit (by omega), digitValue?_upperDigit (by omega), ih]
    exact congrArg (fun b => some (b :: bytes)) hjoin

lemma isBlank_of_mem_encode {bytes : List UInt8} {c : Char} (h : c ∈ encode bytes) :
    Text.isBlank c = false := by
  obtain ⟨b, -, hc⟩ := List.mem_flatMap.mp h
  have hbyte : b.toNat < 256 := b.toNat_lt
  rcases List.mem_pair.mp hc with rfl | rfl
  · exact isBlank_upperDigit (by omega)
  · exact isBlank_upperDigit (by omega)

theorem read_encode (bytes : List UInt8) : read (String.ofList (encode bytes)) = .ok bytes := by
  rw [read, String.toList_ofList, Text.trimmed_of_not_blank fun _ => isBlank_of_mem_encode,
    decode_encode]

end Hex

namespace Base64

variable {n : ℕ} {c : Char} {codes : List ℕ}

lemma sextet?_symbol (h : n < 64) : sextet? (symbol n) = some n := by
  have hall : ∀ n < 64, sextet? (symbol n) = some n := by decide +kernel
  exact hall n h

/-- The symbols of the alphabet are letters of ASCII, other than white space and padding. -/
lemma symbol_plain (h : n < 64) :
    (symbol n).toNat < 128 ∧ Text.isAsciiBlank (symbol n) = false ∧ symbol n ≠ '=' := by
  have hall : ∀ n < 64, (symbol n).toNat < 128 ∧ Text.isAsciiBlank (symbol n) = false ∧
      symbol n ≠ '=' := by decide +kernel
  exact hall n h

lemma sextets_map_symbol (h : ∀ n ∈ codes, n < 64) : sextets (codes.map symbol) = .ok codes := by
  induction codes with
  | nil => rfl
  | cons n codes ih =>
    obtain ⟨hn, h⟩ := List.forall_mem_cons.mp h
    rw [List.map_cons, sextets, sextet?_symbol hn, ih h]
    rfl

/-- Four sextets give three bytes and leave nothing over. -/
lemma bytes_four (s₁ s₂ s₃ s₄ : ℕ) (codes : List ℕ) :
    bytes ⟨0, 0⟩ (s₁ :: s₂ :: s₃ :: s₄ :: codes) =
      UInt8.ofNat ((s₁ * 64 + s₂) / 16) ::
        UInt8.ofNat (((s₁ * 64 + s₂) % 16 * 64 + s₃) / 4) ::
        UInt8.ofNat (((s₁ * 64 + s₂) % 16 * 64 + s₃) % 4 * 64 + s₄) :: bytes ⟨0, 0⟩ codes := by
  simp [bytes, Accumulator.append, Accumulator.take, Nat.mod_one]

lemma bytes_three (s₁ s₂ s₃ : ℕ) :
    bytes ⟨0, 0⟩ [s₁, s₂, s₃] =
      [UInt8.ofNat ((s₁ * 64 + s₂) / 16), UInt8.ofNat (((s₁ * 64 + s₂) % 16 * 64 + s₃) / 4)] := by
  simp [bytes, Accumulator.append, Accumulator.take]

lemma bytes_two (s₁ s₂ : ℕ) :
    bytes ⟨0, 0⟩ [s₁, s₂] = [UInt8.ofNat ((s₁ * 64 + s₂) / 16)] := by
  simp [bytes, Accumulator.append, Accumulator.take]

lemma ofNat_eq {b : UInt8} (h : n = b.toNat) : UInt8.ofNat n = b := by
  rw [h, UInt8.ofNat_toNat]

/-- What is written: symbols of sextets, of which the bytes can be made again, and as many `=` as
are missing from a group of four. -/
structure Written (text : List Char) (bs : List UInt8) (codes : List ℕ) (missing : ℕ) : Prop where
  text_eq : text = codes.map symbol ++ List.replicate missing '='
  missing_le : missing ≤ 2
  lt_of_mem : ∀ n ∈ codes, n < 64
  length_mod : (codes.length + missing) % 4 = 0
  bytes_eq : bytes ⟨0, 0⟩ codes = bs

lemma written_encode (bs : List UInt8) : ∃ codes missing, Written (encode bs) bs codes missing := by
  fun_induction encode bs
  case case1 a b c rest n ih =>
    obtain ⟨codes, missing, ih⟩ := ih
    have ha := a.toNat_lt
    have hb := b.toNat_lt
    have hc := c.toNat_lt
    refine ⟨n / 262144 :: n / 4096 % 64 :: n / 64 % 64 :: n % 64 :: codes, missing, ?_,
      ih.missing_le, ?_, ?_, ?_⟩
    · rw [ih.text_eq]
      rfl
    · simp only [List.forall_mem_cons]
      exact ⟨by omega, by omega, by omega, by omega, ih.lt_of_mem⟩
    · have := ih.length_mod
      simp only [List.length_cons]
      omega
    · rw [bytes_four, ih.bytes_eq, ofNat_eq (b := a) (by omega), ofNat_eq (b := b) (by omega),
        ofNat_eq (b := c) (by omega)]
  case case2 a b n =>
    have ha := a.toNat_lt
    have hb := b.toNat_lt
    refine ⟨[n / 262144, n / 4096 % 64, n / 64 % 64], 1, rfl, by decide, ?_, by simp, ?_⟩
    · simp only [List.forall_mem_cons]
      exact ⟨by omega, by omega, by omega, by simp⟩
    · rw [bytes_three, ofNat_eq (b := a) (by omega), ofNat_eq (b := b) (by omega)]
  case case3 a n =>
    have ha := a.toNat_lt
    refine ⟨[n / 262144, n / 4096 % 64], 2, rfl, by decide, ?_, by simp, ?_⟩
    · simp only [List.forall_mem_cons]
      exact ⟨by omega, by omega, by simp⟩
    · rw [bytes_two, ofNat_eq (b := a) (by omega)]
  case case4 => exact ⟨[], 0, rfl, by decide, by simp, rfl, rfl⟩

section Written

variable {text : List Char} {bs : List UInt8} {missing : ℕ}

lemma Written.padding_eq (h : Written text bs codes missing) : padding text = missing := by
  have hlast : (codes.map symbol).reverse.takeWhile (· == '=') = [] := by
    rw [List.takeWhile_eq_nil_iff]
    intro hne hpad
    have hmem : (codes.map symbol).reverse.get ⟨0, hne⟩ ∈ codes.map symbol :=
      List.mem_reverse.mp (List.get_mem _ _)
    obtain ⟨n, hn, heq⟩ := List.mem_map.mp hmem
    rw [← heq] at hpad
    exact (symbol_plain (h.lt_of_mem n hn)).2.2 (by simpa using hpad)
  rw [padding, h.text_eq, List.reverse_append, List.reverse_replicate,
    List.takeWhile_append_of_pos (by simp), hlast, List.append_nil, List.length_replicate]

lemma Written.decode_eq (h : Written text bs codes missing) : decode text = .ok bs := by
  have hlength : text.length = codes.length + missing := by simp [h.text_eq]
  have htake : text.take (text.length - missing) = codes.map symbol := by
    rw [hlength, Nat.add_sub_cancel, h.text_eq, List.take_left' (by simp)]
  have hpadding : ¬2 < missing := Nat.not_lt.mpr h.missing_le
  rw [decode, h.padding_eq, hlength, h.length_mod, if_neg (by simp), if_neg hpadding, ← hlength,
    htake, sextets_map_symbol h.lt_of_mem]
  exact congrArg Except.ok h.bytes_eq

lemma Written.plain (h : Written text bs codes missing) (hc : c ∈ text) :
    c.toNat < 128 ∧ Text.isAsciiBlank c = false := by
  rw [h.text_eq] at hc
  rcases List.mem_append.mp hc with hc | hc
  · obtain ⟨n, hn, rfl⟩ := List.mem_map.mp hc
    exact ⟨(symbol_plain (h.lt_of_mem n hn)).1, (symbol_plain (h.lt_of_mem n hn)).2.1⟩
  · rw [List.eq_of_mem_replicate hc]
    decide

end Written

/-- A character of ASCII is one byte of the same number. -/
lemma bytes_of_ascii (h : c.toNat < 128) :
    (String.utf8EncodeChar c).map (fun b => Char.ofNat b.toNat) = [c] := by
  have hcode : c.toNat ≤ 127 := Nat.le_of_lt_succ h
  have hbyte : c.toNat % 256 = c.toNat := Nat.mod_eq_of_lt (by omega)
  simp [String.utf8EncodeChar, hcode, hbyte]

lemma symbols_of_ascii {text : List Char} (h : ∀ c ∈ text, c.toNat < 128) :
    symbols text = text.filter (! Text.isAsciiBlank ·) := by
  have hbytes : (text.flatMap String.utf8EncodeChar).map (fun b => Char.ofNat b.toNat) = text := by
    induction text with
    | nil => rfl
    | cons c text ih =>
      obtain ⟨hc, h⟩ := List.forall_mem_cons.mp h
      rw [List.flatMap_cons, List.map_append, bytes_of_ascii hc, ih h, List.singleton_append]
  rw [symbols, hbytes]

lemma symbols_of_plain {text : List Char}
    (h : ∀ c ∈ text, c.toNat < 128 ∧ Text.isAsciiBlank c = false) : symbols text = text := by
  rw [symbols_of_ascii fun c hc => (h c hc).1, List.filter_eq_self]
  exact fun c hc => by rw [(h c hc).2]; rfl

theorem read_encode (bs : List UInt8) : read (String.ofList (encode bs)) = .ok bs := by
  obtain ⟨codes, missing, h⟩ := written_encode bs
  rw [read, String.toList_ofList, symbols_of_plain fun _ => h.plain, h.decode_eq]
  rfl

end Base64

end PolicyDecision.Binary
