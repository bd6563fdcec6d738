import PolicyDecision.Lexical.Reader
import PolicyDecision.Proofs.Decimal.Digits

/-! What readers do with a text whose start is known, and what is known of a text that a reader has
accepted. -/

namespace PolicyDecision.Lexical.Reader

variable {α β : Type} {r : Reader α} {f : α → Reader β} {a : α} {b : β × List Char} {c : Char}
variable {cs ds rest : List Char} {n least : ℕ}

lemma bind_of_eq (h : r cs = some (a, rest)) : (r >>= f) cs = f a rest := by
  change (r cs).bind (fun p => f p.1 p.2) = f a rest
  rw [h, Option.bind_some]

lemma bind_eq_none (h : r cs = none) : (r >>= f) cs = none := by
  change (r cs).bind (fun p => f p.1 p.2) = none
  rw [h, Option.bind_none]

lemma bind_eq_some (h : (r >>= f) cs = some b) :
    ∃ a rest, r cs = some (a, rest) ∧ f a rest = some b := by
  obtain ⟨⟨a, rest⟩, hr, hf⟩ := Option.bind_eq_some_iff.mp h
  exact ⟨a, rest, hr, hf⟩

/-- A reader that gives its result on a condition only. -/
lemma guarded_eq_some {p : Prop} [Decidable p] {b : α × List Char}
    (h : (if p then pure a else failure : Reader α) cs = some b) : p ∧ b = (a, cs) := by
  by_cases hp : p
  case pos =>
    rw [if_pos hp] at h
    cases h
    exact ⟨hp, rfl⟩
  case neg =>
    rw [if_neg hp] at h
    cases h

lemma char_cons (c : Char) (cs : List Char) : char c (c :: cs) = some ((), cs) := by simp [char]

lemma char_eq_none (h : c ∉ cs.head?) : char c cs = none := by
  cases cs with
  | nil => rfl
  | cons d cs =>
    have hne : d ≠ c := by simpa using h
    simp [char, hne]

lemma maybe_of_eq (h : r cs = some (a, rest)) : maybe r cs = some (some a, rest) := by
  simp [maybe, h]

lemma maybe_eq_none (h : r cs = none) : maybe r cs = some (none, cs) := by simp [maybe, h]

lemma whole?_of_eq (h : r cs = some (a, [])) : whole? r cs = some a := by simp [whole?, h]

lemma whole?_eq_some (h : whole? r cs = some a) : r cs = some (a, []) := by
  rw [whole?] at h
  split at h
  case h_1 b heq =>
    cases h
    exact heq
  case h_2 => cases h

lemma char_digits (hds : ∀ d ∈ ds, d.isDigit = true) (hne : ds ≠ []) (hc : c.isDigit = false) :
    char c (ds ++ rest) = none := by
  refine char_eq_none fun h => ?_
  rw [List.head?_append_of_ne_nil ds hne] at h
  exact absurd (hds c (List.mem_of_mem_head? h)) (Bool.eq_false_iff.mp hc)

lemma orElse_of_none {s : Reader α} (h : r cs = none) : (r <|> s) cs = s cs := by
  change (r cs).orElse (fun _ => s cs) = s cs
  rw [h, Option.orElse_none]

lemma orElse_of_eq {s : Reader α} (h : r cs = some (a, rest)) : (r <|> s) cs = some (a, rest) := by
  change (r cs).orElse (fun _ => s cs) = some (a, rest)
  rw [h, Option.orElse_some]

lemma orElse_eq_some {s : Reader α} (h : (r <|> s) cs = some (a, rest)) :
    r cs = some (a, rest) ∨ s cs = some (a, rest) := by
  cases hr : r cs with
  | none =>
    rw [orElse_of_none hr] at h
    exact .inr h
  | some p =>
    rw [orElse_of_eq hr] at h
    exact .inl h

/-- A minus is found just where it was written. -/
lemma maybe_minus {p : Prop} [Decidable p] (h : char '-' rest = none) :
    ∃ found, maybe (char '-') ((if p then ['-'] else []) ++ rest) = some (found, rest) ∧
      (found.isSome = true ↔ p) := by
  by_cases hp : p
  case pos =>
    rw [if_pos hp]
    exact ⟨some (), maybe_of_eq (char_cons '-' rest), by simp [hp]⟩
  case neg =>
    rw [if_neg hp]
    exact ⟨none, maybe_eq_none h, by simp [hp]⟩

/-- Digits are read up to the first character that is none. -/
lemma digits_append (hds : ∀ c ∈ ds, c.isDigit = true) (hrest : rest.takeWhile Char.isDigit = [])
    (h : least ≤ ds.length) : digits least (ds ++ rest) = some (ds, rest) := by
  have htake : (ds ++ rest).takeWhile Char.isDigit = ds := by
    rw [List.takeWhile_append_of_pos hds, hrest, List.append_nil]
  have hdrop : (ds ++ rest).dropWhile Char.isDigit = rest := by
    have hall := List.takeWhile_append_dropWhile (p := Char.isDigit) (l := rest)
    rwa [hrest, List.nil_append, ← List.dropWhile_append_of_pos hds] at hall
  simp only [digits, htake, hdrop, if_pos h]

lemma digits_eq_none (hleast : 0 < least) (h : cs.takeWhile Char.isDigit = []) :
    digits least cs = none := by
  simp only [digits, h, List.length_nil, if_neg (Nat.not_le.mpr hleast)]

lemma natural_eq_none (h : cs.takeWhile Char.isDigit = []) : natural cs = none :=
  bind_eq_none (digits_eq_none Nat.one_pos h)

lemma twoDigits_padded (hn : n < 100) :
    twoDigits (Decimal.padded 2 n ++ rest) = some (n, rest) := by
  have hlength : (Decimal.padded 2 n).length = 2 := Decimal.length_padded Nat.two_pos hn
  obtain ⟨a, b, hab⟩ := List.length_eq_two.mp hlength
  have hmem {c : Char} (hc : c ∈ [a, b]) : c.isDigit = true :=
    Decimal.isDigit_of_mem_padded (by rwa [hab])
  have hvalue : Decimal.ofDigits [a, b] = n := by rw [← hab, Decimal.ofDigits_padded]
  simp [hab, twoDigits, hmem, hvalue]

end PolicyDecision.Lexical.Reader
