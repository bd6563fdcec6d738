import PolicyDecision.Calendar.Reader
import PolicyDecision.Proofs.Calendar.Valid
import PolicyDecision.Proofs.Decimal.Digits
import PolicyDecision.Proofs.Lexical.Reader

/-! Dates and times are read back from the text that they are written as. What is read is valid, and
every valid value is read back, so that the texts that were read first do not matter. -/

namespace PolicyDecision

namespace Decimal

variable {width n : ℕ} {c : Char}

lemma isBlank_of_mem_padded (h : c ∈ padded width n) : Text.isBlank c = false :=
  Text.isBlank_of_isDigit (isDigit_of_mem_padded h)

lemma isBlank_of_mem_fraction (h : c ∈ fraction width n) : Text.isBlank c = false := by
  rw [fraction] at h
  split at h
  case isTrue => cases h
  case isFalse =>
    rcases List.mem_cons.mp h with rfl | h
    · decide
    · exact isBlank_of_mem_padded (mem_of_mem_withoutTrailingZeros h)

end Decimal

namespace Calendar

open Lexical Lexical.Reader Decimal

variable {rest : List Char} {n : ℕ}

namespace Reader

lemma year_append {y : ℤ} (hy : IsWord y) (hrest : rest.takeWhile Char.isDigit = []) :
    year ((if y < 0 then ['-'] else []) ++ (padded 4 y.natAbs ++ rest)) = some (y, rest) := by
  have hlimit : Nat.pow 2 63 = 9223372036854775808 := rfl
  obtain ⟨hleast, hgreatest⟩ := isWord_iff.mp hy
  have hdigit : char '-' (padded 4 y.natAbs ++ rest) = none :=
    char_digits (fun _ => isDigit_of_mem_padded) (padded_ne_nil 4 _) (by decide)
  obtain ⟨found, hminus, hfound⟩ := maybe_minus (p := y < 0) hdigit
  have hdigits : digits 4 (padded 4 y.natAbs ++ rest) = some (padded 4 y.natAbs, rest) :=
    digits_append (fun _ => isDigit_of_mem_padded) hrest (le_length_padded 4 _)
  rw [year, bind_of_eq hminus, bind_of_eq hdigits, ofDigits_padded]
  by_cases hneg : y < 0
  case pos =>
    have hvalue : -(y.natAbs : ℤ) = y := by omega
    rw [if_pos (hfound.mpr hneg), if_pos (by omega), hvalue]
    rfl
  case neg =>
    have hvalue : (y.natAbs : ℤ) = y := by omega
    rw [if_neg (fun h => hneg (hfound.mp h)), if_pos (by omega), hvalue]
    rfl

/-- A fraction that is zero is not written, and read as one that is missing. -/
lemma nanos_append (hn : n < 1000000000) (hrest : rest.takeWhile Char.isDigit = [])
    (hpoint : '.' ∉ rest.head?) :
    ∃ found, maybe nanos (fraction 9 n ++ rest) = some (found, rest) ∧ found.getD 0 = n := by
  by_cases hzero : n = 0
  case pos =>
    have hnone : nanos rest = none := bind_eq_none (char_eq_none hpoint)
    rw [fraction, if_pos hzero, List.nil_append]
    exact ⟨none, maybe_eq_none hnone, hzero.symm⟩
  case neg =>
    obtain ⟨hne, hdigit, hlength, hvalue⟩ :=
      withoutTrailingZeros_padded hzero (show n < 10 ^ 9 from hn)
    have hdigits : digits 1 (withoutTrailingZeros (padded 9 n) ++ rest) =
        some (withoutTrailingZeros (padded 9 n), rest) :=
      digits_append hdigit hrest (List.length_pos_iff.mpr hne)
    have hnanos : nanos ('.' :: (withoutTrailingZeros (padded 9 n) ++ rest)) = some (n, rest) := by
      rw [nanos, bind_of_eq (char_cons '.' _), bind_of_eq hdigits, List.take_of_length_le hlength,
        hvalue]
      rfl
    rw [fraction, if_neg hzero, List.cons_append]
    exact ⟨some n, maybe_of_eq hnanos, rfl⟩

lemma day_append {d : Date} (hyear : IsWord d.year) (hday : d.toDay.Exists) :
    day (d.writtenDay ++ rest) = some (d.toDay, rest) := by
  have hmonth : d.month ≤ 12 := hday.2.1
  have hofMonth : d.day ≤ 31 := hday.2.2.2.trans (daysInMonth_le _ _)
  have htext : d.writtenDay ++ rest = (if d.year < 0 then ['-'] else []) ++
      (padded 4 d.year.natAbs ++ '-' :: (padded 2 d.month ++ '-' :: (padded 2 d.day ++ rest))) := by
    simp [Date.writtenDay]
  rw [htext, day, bind_of_eq (year_append hyear rfl), bind_of_eq (char_cons '-' _),
    bind_of_eq (twoDigits_padded (by omega)), bind_of_eq (char_cons '-' _),
    bind_of_eq (twoDigits_padded (by omega))]
  rfl

lemma clock_append {t : Time} (h : t.OnClock) (hrest : rest.takeWhile Char.isDigit = [])
    (hpoint : '.' ∉ rest.head?) :
    clock (t.writtenClock ++ rest) = some (⟨t.hour, t.minute, t.second, t.nanos⟩, rest) := by
  obtain ⟨hhour, hminute, hsecond, hnanos⟩ := h
  obtain ⟨found, hfraction, hfound⟩ := nanos_append hnanos hrest hpoint
  have htext : t.writtenClock ++ rest = padded 2 t.hour ++ ':' :: (padded 2 t.minute ++ ':' ::
      (padded 2 t.second ++ (fraction 9 t.nanos ++ rest))) := by
    simp [Time.writtenClock]
  rw [htext, clock, bind_of_eq (twoDigits_padded (by omega)), bind_of_eq (char_cons ':' _),
    bind_of_eq (twoDigits_padded (by omega)), bind_of_eq (char_cons ':' _),
    bind_of_eq (twoDigits_padded (by omega)), bind_of_eq hfraction, hfound]
  rfl

lemma zone_written {m : ℤ} (hvalid : m.natAbs ≤ greatestOffset) (hzero : m ≠ 0) :
    zone (Offset.written (some m)) = some (m, []) := by
  have hbound : m.natAbs ≤ 840 := hvalid
  have hsign : ∀ cs, sign ((if m < 0 then '-' else '+') :: cs) = some (decide (m < 0), cs) := by
    intro cs
    by_cases hm : m < 0 <;> simp [sign, hm]
  have htext : Offset.written (some m) = (if m < 0 then '-' else '+') ::
      (padded 2 (m.natAbs / 60) ++ ':' :: (padded 2 (m.natAbs % 60) ++ [])) := by
    simp [Offset.written, hzero]
  rw [htext, zone, bind_of_eq (hsign _), bind_of_eq (twoDigits_padded (by omega)),
    bind_of_eq (char_cons ':' _), bind_of_eq (twoDigits_padded (by omega)), if_pos (by omega)]
  have hvalue : (if decide (m < 0) = true then
      -(((m.natAbs / 60 : ℕ) : ℤ) * 60 + ((m.natAbs % 60 : ℕ) : ℤ))
      else ((m.natAbs / 60 : ℕ) : ℤ) * 60 + ((m.natAbs % 60 : ℕ) : ℤ)) = m := by
    split
    case isTrue h =>
      have hneg : m < 0 := of_decide_eq_true h
      omega
    case isFalse h =>
      have hnonneg : ¬m < 0 := of_decide_eq_false (Bool.eq_false_iff.mpr h)
      omega
  exact congrArg (fun m => some (m, [])) hvalue

lemma offset_written {o : Offset} (h : o.Valid) : offset o.written = some (o, []) := by
  cases o with
  | none => rfl
  | some m =>
    by_cases hzero : m = 0
    case pos =>
      rw [hzero]
      rfl
    case neg =>
      have hutc : utc (Offset.written (some m)) = none := by
        refine bind_eq_none (char_eq_none ?_)
        by_cases hm : m < 0 <;> simp [Offset.written, hzero, hm]
      refine maybe_of_eq ?_
      rw [orElse_of_none hutc, zone_written (h m rfl) hzero]

end Reader

/-- No time zone is written with a digit or a point in front. -/
lemma Offset.head_written (o : Offset) :
    o.written.takeWhile Char.isDigit = [] ∧ '.' ∉ o.written.head? := by
  cases o with
  | none => exact ⟨rfl, by simp [written]⟩
  | some m =>
    by_cases hzero : m = 0
    case pos =>
      rw [hzero]
      exact ⟨rfl, by simp [written]⟩
    case neg =>
      by_cases hm : m < 0
      · simp [written, hzero, hm]
      · simp [written, hzero, hm]

lemma Offset.not_blank_written (o : Offset) : ∀ c ∈ o.written, Text.isBlank c = false := by
  cases o with
  | none => simp [written]
  | some m =>
    rw [written]
    split
    case isTrue =>
      simp only [List.forall_mem_cons]
      exact ⟨by decide, by simp⟩
    case isFalse =>
      simp only [List.forall_mem_append, List.forall_mem_cons]
      exact ⟨⟨by split <;> decide, fun _ => isBlank_of_mem_padded⟩,
        by decide, fun _ => isBlank_of_mem_padded⟩

lemma Date.not_blank_writtenDay (d : Date) : ∀ c ∈ d.writtenDay, Text.isBlank c = false := by
  simp only [writtenDay, List.forall_mem_append, List.forall_mem_cons]
  refine ⟨⟨⟨?_, fun _ => isBlank_of_mem_padded⟩, by decide, fun _ => isBlank_of_mem_padded⟩,
    by decide, fun _ => isBlank_of_mem_padded⟩
  split
  case isTrue => simp only [List.forall_mem_singleton]; decide
  case isFalse => simp

lemma Time.not_blank_writtenClock (t : Time) : ∀ c ∈ t.writtenClock, Text.isBlank c = false := by
  simp only [writtenClock, List.forall_mem_append, List.forall_mem_cons]
  exact ⟨⟨⟨fun _ => isBlank_of_mem_padded, by decide, fun _ => isBlank_of_mem_padded⟩,
    by decide, fun _ => isBlank_of_mem_padded⟩, fun _ => isBlank_of_mem_fraction⟩

section Reading

variable {α : Type} {type : DataType} {reader : Lexical.Reader α} {a : α} {text : String}
variable {cs : List Char}

lemma readWhole_of_eq (h : reader cs = some (a, [])) (hblank : ∀ c ∈ cs, Text.isBlank c = false) :
    readWhole type reader (String.ofList cs) = .ok a := by
  rw [readWhole, String.toList_ofList, Text.trimmed_of_not_blank hblank, whole?_of_eq h]

lemma readWhole_eq_ok (h : readWhole type reader text = .ok a) : ∃ cs, reader cs = some (a, []) := by
  rw [readWhole] at h
  split at h
  case h_1 b heq =>
    cases h
    exact ⟨_, whole?_eq_some heq⟩
  case h_2 => cases h

end Reading

lemma Reader.isWord_of_year {y : ℤ} {cs : List Char} (h : year cs = some (y, rest)) :
    IsWord y := by
  obtain ⟨negative, cs₁, -, h⟩ := bind_eq_some h
  obtain ⟨ds, cs₂, -, h⟩ := bind_eq_some h
  have hlimit : Nat.pow 2 63 = 9223372036854775808 := rfl
  rw [isWord_iff]
  dsimp only at h
  split at h
  case isTrue =>
    obtain ⟨hle, heq⟩ := guarded_eq_some h
    cases heq
    constructor <;> omega
  case isFalse =>
    obtain ⟨hlt, heq⟩ := guarded_eq_some h
    cases heq
    constructor <;> omega

lemma Reader.isWord_of_day {d : Day} {cs : List Char} (h : day cs = some (d, rest)) :
    IsWord d.year := by
  obtain ⟨y, cs₁, hy, h⟩ := bind_eq_some h
  obtain ⟨-, cs₂, -, h⟩ := bind_eq_some h
  obtain ⟨m, cs₃, -, h⟩ := bind_eq_some h
  obtain ⟨-, cs₄, -, h⟩ := bind_eq_some h
  obtain ⟨d, cs₅, -, h⟩ := bind_eq_some h
  cases h
  exact isWord_of_year hy

namespace Date

/-- The dates that can be read. -/
def Readable (d : Date) : Prop := d.Valid ∧ IsWord d.year

theorem readable_of_read {text : String} {d : Date} (h : read text = .ok d) : d.Readable := by
  obtain ⟨⟨day, offset⟩, hread, hmake⟩ := Stateful.except_bind_eq_ok.mp h
  obtain ⟨cs, hreader⟩ := readWhole_eq_ok hread
  obtain ⟨day', cs₁, hday, h⟩ := bind_eq_some hreader
  obtain ⟨offset', cs₂, -, h⟩ := bind_eq_some h
  cases h
  obtain ⟨rfl, hvalid⟩ := make_eq_ok.mp hmake
  exact ⟨hvalid, Reader.isWord_of_day hday⟩

theorem read_written {d : Date} (h : d.Readable) : read (String.ofList d.written) = .ok d := by
  obtain ⟨⟨hday, hoffset⟩, hyear⟩ := h
  have hreader : Reader.date d.written = some ((d.toDay, d.offset), []) := by
    rw [written, Reader.date, bind_of_eq (Reader.day_append hyear hday),
      bind_of_eq (Reader.offset_written hoffset)]
    rfl
  have hblank : ∀ c ∈ d.written, Text.isBlank c = false :=
    List.forall_mem_append.mpr ⟨d.not_blank_writtenDay, d.offset.not_blank_written⟩
  rw [read, readWhole_of_eq hreader hblank]
  exact make_eq_ok.mpr ⟨rfl, hday, hoffset⟩

end Date

namespace Time

theorem valid_of_read {text : String} {t : Time} (h : read text = .ok t) : t.Valid := by
  obtain ⟨⟨clock, offset⟩, -, hmake⟩ := Stateful.except_bind_eq_ok.mp h
  exact (make_eq_ok.mp hmake).2

theorem read_written {t : Time} (h : t.Valid) : read (String.ofList t.written) = .ok t := by
  obtain ⟨hclock, hoffset⟩ := h
  obtain ⟨hdigit, hpoint⟩ := t.offset.head_written
  have hreader : Reader.time t.written =
      some ((⟨t.hour, t.minute, t.second, t.nanos⟩, t.offset), []) := by
    rw [written, Reader.time, bind_of_eq (Reader.clock_append hclock hdigit hpoint),
      bind_of_eq (Reader.offset_written hoffset)]
    rfl
  have hblank : ∀ c ∈ t.written, Text.isBlank c = false :=
    List.forall_mem_append.mpr ⟨t.not_blank_writtenClock, t.offset.not_blank_written⟩
  rw [read, readWhole_of_eq hreader hblank]
  exact make_eq_ok.mpr ⟨rfl, hclock, hoffset⟩

end Time

namespace DateTime

/-- The dates with a time that can be read. -/
def Readable (t : DateTime) : Prop := t.Valid ∧ IsWord t.date.year

theorem readable_of_read {text : String} {t : DateTime} (h : read text = .ok t) : t.Readable := by
  obtain ⟨⟨day, clock, offset⟩, hread, hmake⟩ := Stateful.except_bind_eq_ok.mp h
  obtain ⟨cs, hreader⟩ := readWhole_eq_ok hread
  obtain ⟨day', cs₁, hday, h⟩ := bind_eq_some hreader
  obtain ⟨-, cs₂, -, h⟩ := bind_eq_some h
  obtain ⟨clock', cs₃, -, h⟩ := bind_eq_some h
  obtain ⟨offset', cs₄, -, h⟩ := bind_eq_some h
  cases h
  obtain ⟨rfl, hvalid⟩ := make_eq_ok.mp hmake
  exact ⟨hvalid, Reader.isWord_of_day hday⟩

theorem read_written {t : DateTime} (h : t.Readable) : read (String.ofList t.written) = .ok t := by
  obtain ⟨hvalid, hyear⟩ := h
  have hday := hvalid.1.1
  obtain ⟨hclock, hoffset⟩ := hvalid.2.1
  have hsame := hvalid.2.2
  obtain ⟨hdigit, hpoint⟩ := t.time.offset.head_written
  have htext : t.written =
      t.date.writtenDay ++ 'T' :: (t.time.writtenClock ++ t.time.offset.written) := by
    simp [written]
  have hreader : Reader.dateTime t.written =
      some ((t.date.toDay, ⟨t.time.hour, t.time.minute, t.time.second, t.time.nanos⟩,
        t.time.offset), []) := by
    rw [htext, Reader.dateTime, bind_of_eq (Reader.day_append hyear hday),
      bind_of_eq (char_cons 'T' _), bind_of_eq (Reader.clock_append hclock hdigit hpoint),
      bind_of_eq (Reader.offset_written hoffset)]
    rfl
  have hblank : ∀ c ∈ t.written, Text.isBlank c = false := by
    simp only [htext, List.forall_mem_append, List.forall_mem_cons]
    exact ⟨t.date.not_blank_writtenDay, by decide, t.time.not_blank_writtenClock,
      t.time.offset.not_blank_written⟩
  rw [read, readWhole_of_eq hreader hblank]
  refine make_eq_ok.mpr ⟨?_, hvalid⟩
  obtain ⟨date, time⟩ := t
  cases date
  cases time
  cases hsame
  rfl

end DateTime

end Calendar

end PolicyDecision
