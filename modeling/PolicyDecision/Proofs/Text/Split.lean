import PolicyDecision.Text.Blank
import PolicyDecision.Text.Split
import Mathlib.Data.List.DropRight
import Mathlib.Tactic.Common

/-! Texts without the white space at their ends, and texts cut at a separator. Nothing more is taken
off a text that has been trimmed, and it is the same whatever white space stood there. -/

namespace PolicyDecision.Text

variable {c : Char} {cs before after : List Char}

lemma isBlank_of_isDigit (h : c.isDigit = true) : isBlank c = false := by
  obtain ⟨hlow, hhigh⟩ : 48 ≤ c.toNat ∧ c.toNat ≤ 57 := Char.isDigit_iff_toNat.mp h
  have hpoint : ∀ n ≤ 57, 48 ≤ n → Intervals.containsPoint blanks n = false := by decide
  exact hpoint _ hhigh hlow

/-- A text is trimmed already if it has no white space at its ends. -/
lemma trimmed_eq_self (hfirst : ∀ c ∈ cs.head?, isBlank c = false)
    (hlast : ∀ c ∈ cs.getLast?, isBlank c = false) : trimmed cs = cs := by
  have hstart : cs.dropWhile isBlank = cs := by
    cases cs with
    | nil => rfl
    | cons c cs => simp [hfirst c rfl]
  have hend : cs.rdropWhile isBlank = cs := by
    refine List.rdropWhile_eq_self_iff.mpr fun hne => ?_
    simp [hlast _ (List.getLast_mem_getLast? hne)]
  rw [trimmed, hstart]
  exact hend

lemma trimmed_of_not_blank (h : ∀ c ∈ cs, isBlank c = false) : trimmed cs = cs :=
  trimmed_eq_self (fun c hc => h c (List.mem_of_mem_head? hc))
    fun c hc => h c (List.mem_of_getLast? hc)

lemma head?_trimmed (h : c ∈ (trimmed cs).head?) : isBlank c = false := by
  have hprefix : trimmed cs <+: cs.dropWhile isBlank := List.rdropWhile_prefix _ _
  obtain ⟨rest, hrest⟩ := hprefix
  have hhead : c ∈ (cs.dropWhile isBlank).head? := by
    rw [← hrest]
    exact List.mem_head?_append_of_mem_head? h
  have hnot := List.head?_dropWhile_not isBlank cs
  rwa [Option.mem_def.mp hhead] at hnot

lemma getLast?_trimmed (h : c ∈ (trimmed cs).getLast?) : isBlank c = false := by
  obtain ⟨hne, rfl⟩ := List.mem_getLast?_eq_getLast h
  exact Bool.eq_false_iff.mpr (List.rdropWhile_last_not isBlank (cs.dropWhile isBlank) hne)

/-- Trimming a text twice is trimming it once. -/
theorem trimmed_trimmed (cs : List Char) : trimmed (trimmed cs) = trimmed cs :=
  trimmed_eq_self (fun _ => head?_trimmed) fun _ => getLast?_trimmed

lemma trimmed_trim (s : String) : trimmed (trim s).toList = trimmed s.toList := by
  rw [trim, String.toList_ofList, trimmed_trimmed]

theorem trim_trim (s : String) : trim (trim s) = trim s := by
  rw [trim, trimmed_trim, ← trim]

/-- What trimming takes off is white space. -/
lemma exists_blanks (cs : List Char) :
    ∃ before after, (∀ c ∈ before, isBlank c = true) ∧ (∀ c ∈ after, isBlank c = true) ∧
      cs = before ++ (trimmed cs ++ after) := by
  refine ⟨cs.takeWhile isBlank, (cs.dropWhile isBlank).rtakeWhile isBlank,
    fun c => List.mem_takeWhile_imp, fun c => List.mem_rtakeWhile_imp, ?_⟩
  have hend : trimmed cs ++ (cs.dropWhile isBlank).rtakeWhile isBlank = cs.dropWhile isBlank :=
    List.rdropWhile_append_rtakeWhile
  rw [hend, List.takeWhile_append_dropWhile]

lemma not_mem_blanks (hc : isBlank c = false) (h : ∀ c ∈ cs, isBlank c = true) : c ∉ cs := by
  intro hmem
  rw [h c hmem] at hc
  cases hc

lemma trimmed_blanks_append (h : ∀ c ∈ before, isBlank c = true) :
    trimmed (before ++ cs) = trimmed cs := by
  rw [trimmed, List.dropWhile_append_of_pos h, trimmed]

lemma trimmed_append_blanks (h : ∀ c ∈ after, isBlank c = true) :
    trimmed (cs ++ after) = trimmed cs := by
  have hend (cs : List Char) : (cs ++ after).rdropWhile isBlank = cs.rdropWhile isBlank := by
    rw [List.rdropWhile, List.reverse_append, List.dropWhile_append_of_pos, List.rdropWhile]
    exact fun c hc => h c (List.mem_reverse.mp hc)
  change ((cs ++ after).dropWhile isBlank).rdropWhile isBlank =
    (cs.dropWhile isBlank).rdropWhile isBlank
  rw [List.dropWhile_append]
  split
  case isTrue hempty =>
    rw [List.isEmpty_iff.mp hempty, List.dropWhile_eq_nil_iff.mpr h]
  case isFalse => exact hend _

end PolicyDecision.Text

/-! Texts cut at a separator, with a text before or after that does not hold it. -/

namespace PolicyDecision.Text

variable {sep : Char} {cs before after : List Char}

lemma splitLast_eq_some (h : splitLast sep cs = some (before, after)) :
    cs = before ++ sep :: after := by
  induction cs generalizing before with
  | nil => cases h
  | cons c cs ih =>
    rw [splitLast] at h
    split at h
    case h_1 b a heq =>
      cases h
      rw [ih heq, List.cons_append]
    case h_2 =>
      split at h
      case isTrue hsep =>
        cases h
        rw [hsep, List.nil_append]
      case isFalse => cases h

lemma splitLast_of_not_mem (h : sep ∉ cs) : splitLast sep cs = none := by
  induction cs with
  | nil => rfl
  | cons c cs ih =>
    obtain ⟨hc, h⟩ : sep ≠ c ∧ sep ∉ cs := by simpa using h
    rw [splitLast, ih h]
    exact if_neg hc.symm

lemma splitFirst_append (h : sep ∉ before) :
    splitFirst sep (before ++ cs) =
      (splitFirst sep cs).map fun (b, a) => (before ++ b, a) := by
  induction before with
  | nil => simp
  | cons c before ih =>
    obtain ⟨hc, h⟩ : sep ≠ c ∧ sep ∉ before := by simpa using h
    rw [List.cons_append, splitFirst, if_neg (Ne.symm hc), ih h, Option.map_map]
    rfl

lemma splitFirst_append_right (h : sep ∉ after) :
    splitFirst sep (cs ++ after) = (splitFirst sep cs).map fun (b, a) => (b, a ++ after) := by
  induction cs with
  | nil =>
    have hnone : splitFirst sep (after ++ []) = none := by rw [splitFirst_append h]; rfl
    rw [List.append_nil] at hnone
    rw [List.nil_append, hnone]
    rfl
  | cons c cs ih =>
    rw [List.cons_append, splitFirst, splitFirst]
    split
    case isTrue => rfl
    case isFalse =>
      rw [ih, Option.map_map, Option.map_map]
      rfl

lemma splitAll_of_not_mem (h : sep ∉ cs) : splitAll sep cs = [cs] := by
  induction cs with
  | nil => rfl
  | cons c cs ih =>
    obtain ⟨hc, h⟩ : sep ≠ c ∧ sep ∉ cs := by simpa using h
    simp [splitAll, ih h, Ne.symm hc]

lemma splitAll_ne_nil (sep : Char) (cs : List Char) : splitAll sep cs ≠ [] := by
  cases cs with
  | nil => simp [splitAll]
  | cons c cs =>
    rw [splitAll]
    split
    · split <;> simp
    · simp

/-- What stands before belongs to the first part. -/
lemma splitAll_append (cs : List Char) (h : sep ∉ before) :
    ∃ first rest, splitAll sep cs = first :: rest ∧
      splitAll sep (before ++ cs) = (before ++ first) :: rest := by
  induction before with
  | nil =>
    obtain ⟨first, rest, hcs⟩ := List.exists_cons_of_ne_nil (splitAll_ne_nil sep cs)
    exact ⟨first, rest, hcs, hcs⟩
  | cons c before ih =>
    obtain ⟨hc, h⟩ : sep ≠ c ∧ sep ∉ before := by simpa using h
    obtain ⟨first, rest, hcs, happend⟩ := ih h
    refine ⟨first, rest, hcs, ?_⟩
    simp [splitAll, happend, Ne.symm hc]

/-- What stands after belongs to the last part. -/
lemma splitAll_append_right (cs : List Char) (h : sep ∉ after) :
    ∃ init last, splitAll sep cs = init ++ [last] ∧
      splitAll sep (cs ++ after) = init ++ [last ++ after] := by
  induction cs with
  | nil => exact ⟨[], [], rfl, splitAll_of_not_mem h⟩
  | cons c cs ih =>
    obtain ⟨init, last, hcs, happend⟩ := ih
    rw [List.cons_append, splitAll, splitAll, hcs, happend]
    by_cases hc : c = sep
    · exact ⟨[] :: init, last, by cases init <;> simp [hc], by cases init <;> simp [hc]⟩
    · cases init with
      | nil => exact ⟨[], c :: last, by simp [hc], by simp [hc]⟩
      | cons first init => exact ⟨(c :: first) :: init, last, by simp [hc], by simp [hc]⟩

end PolicyDecision.Text
