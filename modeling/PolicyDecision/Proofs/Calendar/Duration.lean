import PolicyDecision.Proofs.Calendar.RoundTrip
import PolicyDecision.Proofs.Lexical.Grammar

/-! Durations in months are read back from the text that they are written as. A component of a
duration is written only if it is not zero, and a component that is missing counts as zero. -/

namespace PolicyDecision.Calendar

open Lexical Lexical.Reader

variable {rest : List Char} {designator other : Char} {n : ℕ}

/-- A number of 64 bits and the letter of its component. -/
inductive ComponentText (designator : Char) : Grammar ℕ
  | intro {ds : List Char} {n : ℕ} (h : Numeral ds n) :
    ComponentText designator (ds ++ [designator]) n

namespace Reader

/-- A component that is not missing. -/
def numbered (designator : Char) : Lexical.Reader ℕ := do
  let n ← natural
  char designator
  return n

lemma reads_numbered (h : designator.isDigit = false) :
    Reads (numbered designator) (ComponentText designator) fun _ => True where
  sound := by
    intro cs n rest hread
    obtain ⟨m, cs₁, hm, h₁⟩ := bind_eq_some hread
    obtain ⟨_, cs₂, hletter, h₂⟩ := bind_eq_some h₁
    cases h₂
    obtain ⟨ds, hds, rfl⟩ := reads_natural.sound hm
    obtain rfl := char_eq_some hletter
    exact ⟨_, .intro hds, by simp⟩
  complete := by
    rintro _ n rest ⟨hds⟩ -
    have hends : EndsNumber (designator :: rest) := by simp [EndsNumber, h]
    rw [List.append_assoc, List.singleton_append, numbered,
      bind_of_eq (reads_natural.complete hds hends), bind_of_eq (char_cons designator rest)]
    rfl

lemma numbered_of_ends (h : EndsNumber rest) : numbered designator rest = none :=
  bind_eq_none (natural_eq_none h)

/-- A number before another letter is not read. -/
lemma numbered_of_other {ds : List Char} {n : ℕ} (hds : Numeral ds n)
    (hother : other.isDigit = false) (hne : other ≠ designator) :
    numbered designator (ds ++ other :: rest) = none := by
  have hends : EndsNumber (other :: rest) := by simp [EndsNumber, hother]
  rw [numbered, bind_of_eq (reads_natural.complete hds hends)]
  exact bind_eq_none (char_eq_none (by simpa using hne))

lemma component_of_no_digit (h : EndsNumber rest) :
    component designator rest = some (none, rest) :=
  maybe_eq_none (numbered_of_ends h)

/-- A component that is read is the number written before its designator. -/
lemma component_digits (hn : n < Nat.pow 2 64) (hdesignator : designator.isDigit = false) :
    component designator (Decimal.digits n ++ designator :: rest) = some (some n, rest) := by
  rw [← List.singleton_append, ← List.append_assoc]
  exact maybe_of_eq ((reads_numbered hdesignator).complete (.intro (.digits hn)) trivial)

/-- A number before another designator is left where it is. -/
lemma component_of_other (hn : n < Nat.pow 2 64) (hother : other.isDigit = false)
    (hne : other ≠ designator) :
    component designator (Decimal.digits n ++ other :: rest) =
      some (none, Decimal.digits n ++ other :: rest) :=
  maybe_eq_none (numbered_of_other (.digits hn) hother hne)

/-- What is read of a component that is written or left out. -/
def readComponent (n : ℕ) : Option ℕ := if n = 0 then none else some n

lemma readComponent_getD (n : ℕ) : (readComponent n).getD 0 = n := by
  rw [readComponent]
  split
  case isTrue h => exact h.symm
  case isFalse => rfl

lemma isNone_readComponent : (readComponent n).isNone = true ↔ n = 0 := by
  rw [readComponent]
  split
  case isTrue h => simp [h]
  case isFalse h => simp [h]

lemma component_written (hn : n < Nat.pow 2 64) (hdesignator : designator.isDigit = false)
    (hrest : component designator rest = some (none, rest)) :
    component designator (writtenComponent n designator ++ rest) =
      some (readComponent n, rest) := by
  rw [writtenComponent, readComponent]
  split
  case isTrue => exact hrest
  case isFalse =>
    rw [List.append_assoc]
    exact component_digits hn hdesignator

lemma component_written_other (hn : n < Nat.pow 2 64) (hother : other.isDigit = false)
    (hne : other ≠ designator) (hrest : component designator rest = some (none, rest)) :
    component designator (writtenComponent n other ++ rest) =
      some (none, writtenComponent n other ++ rest) := by
  rw [writtenComponent]
  split
  case isTrue => exact hrest
  case isFalse =>
    rw [List.append_assoc]
    exact component_of_other hn hother hne

end Reader

lemma not_blank_writtenComponent (h : Text.isBlank designator = false) :
    ∀ c ∈ writtenComponent n designator, Text.isBlank c = false := by
  rw [writtenComponent]
  split
  case isTrue => simp
  case isFalse =>
    simp only [List.forall_mem_append, List.forall_mem_singleton]
    exact ⟨fun _ hc => Text.isBlank_of_isDigit (Decimal.isDigit_of_mem_digits hc), h⟩

namespace YearMonthDuration

/-- The durations that can be read: their size takes 63 bits. -/
def Readable (d : YearMonthDuration) : Prop := d.months.natAbs < Nat.pow 2 63

theorem readable_of_read {text : String} {d : YearMonthDuration} (h : read text = .ok d) :
    d.Readable := by
  obtain ⟨parts, -, h⟩ := Stateful.except_bind_eq_ok.mp h
  dsimp only at h
  split at h
  case isTrue => cases h
  case isFalse =>
    split at h
    case isTrue => cases h
    case isFalse hsize =>
      cases h
      rw [Readable]
      dsimp only
      split <;> omega

lemma not_blank_written (d : YearMonthDuration) : ∀ c ∈ d.written, Text.isBlank c = false := by
  rw [written]
  split
  case isTrue =>
    simp only [List.forall_mem_cons]
    exact ⟨by decide, by decide, by decide, by simp⟩
  case isFalse =>
    simp only [List.forall_mem_append, List.forall_mem_cons]
    refine ⟨⟨?_, by decide, not_blank_writtenComponent (by decide)⟩,
      not_blank_writtenComponent (by decide)⟩
    split
    case isTrue => simp only [List.forall_mem_singleton]; decide
    case isFalse => simp

/-- Years and months that are written and not both zero are read one after the other. -/
lemma reader_components (negative : Prop) [Decidable negative] {years months : ℕ}
    (hyears : years < Nat.pow 2 64) (hmonths : months < Nat.pow 2 64) :
    ∃ found : Bool, (found = true ↔ negative) ∧
      Reader.yearMonthDuration ((if negative then ['-'] else []) ++
        'P' :: writtenComponent years 'Y' ++ writtenComponent months 'M') =
          some (⟨found, Reader.readComponent years, Reader.readComponent months⟩, []) := by
  have hletter :
      char '-' ('P' :: (writtenComponent years 'Y' ++ (writtenComponent months 'M' ++ []))) = none :=
    char_eq_none (by simp)
  obtain ⟨found, hminus, hfound⟩ := maybe_minus (p := negative) hletter
  have hnoYears : Reader.component 'Y' (writtenComponent months 'M' ++ []) =
      some (none, writtenComponent months 'M' ++ []) :=
    Reader.component_written_other hmonths (by decide) (by decide)
      (Reader.component_of_no_digit rfl)
  have hyear := Reader.component_written hyears (by decide) hnoYears
  have hmonth : Reader.component 'M' (writtenComponent months 'M' ++ []) =
      some (Reader.readComponent months, []) :=
    Reader.component_written hmonths (by decide) (Reader.component_of_no_digit rfl)
  refine ⟨found.isSome, hfound, ?_⟩
  rw [← List.append_nil (writtenComponent months 'M'), List.append_assoc, List.cons_append,
    Reader.yearMonthDuration, bind_of_eq hminus, bind_of_eq (char_cons 'P' _), bind_of_eq hyear,
    bind_of_eq hmonth]
  rfl

lemma exists_parts {d : YearMonthDuration} (h : d.Readable) :
    ∃ parts, Reader.yearMonthDuration d.written = some (parts, []) ∧
      (parts.years.isNone && parts.months.isNone) = false ∧
      parts.total = d.months.natAbs ∧ (parts.negative = true ↔ d.months < 0) := by
  rw [written]
  split
  case isTrue hzero => exact ⟨⟨false, none, some 0⟩, rfl, rfl, by simp [hzero]; rfl, by simp [hzero]⟩
  case isFalse hzero =>
    have hbound : Nat.pow 2 63 < Nat.pow 2 64 := by decide
    have hsize : d.months.natAbs < Nat.pow 2 63 := h
    have hyears : d.months.natAbs / 12 < Nat.pow 2 64 := by omega
    have hmonths : d.months.natAbs % 12 < Nat.pow 2 64 := by omega
    obtain ⟨found, hfound, hreader⟩ := reader_components (d.months < 0) hyears hmonths
    refine ⟨_, hreader, ?_, ?_, hfound⟩
    · refine Bool.eq_false_iff.mpr fun hnone => ?_
      obtain ⟨hyears, hmonths⟩ := Bool.and_eq_true_iff.mp hnone
      have hyears := Reader.isNone_readComponent.mp hyears
      have hmonths := Reader.isNone_readComponent.mp hmonths
      omega
    · rw [Reader.YearMonthComponents.total, Reader.readComponent_getD, Reader.readComponent_getD]
      omega

theorem read_written {d : YearMonthDuration} (h : d.Readable) :
    read (String.ofList d.written) = .ok d := by
  obtain ⟨parts, hreader, hparts, htotal, hnegative⟩ := exists_parts h
  have hsmall : ¬Nat.pow 2 63 ≤ parts.total := Nat.not_le.mpr (htotal ▸ h)
  have hread : read (String.ofList d.written) =
      .ok ⟨if parts.negative then -(parts.total : ℤ) else parts.total⟩ := by
    rw [read, readWhole_of_eq hreader d.not_blank_written]
    change (if (parts.years.isNone && parts.months.isNone) = true then _ else _) = _
    rw [hparts, if_neg Bool.false_ne_true, if_neg hsmall]
    rfl
  have hmonths : (if parts.negative then -(parts.total : ℤ) else parts.total) = d.months := by
    rw [htotal]
    split
    case isTrue h =>
      have := hnegative.mp h
      omega
    case isFalse h =>
      have := mt hnegative.mpr h
      omega
  rw [hread, hmonths]

end YearMonthDuration

end PolicyDecision.Calendar
