import PolicyDecision.Proofs.Calendar.Duration

/-! Durations in days and times of a day. The text that a duration is written as is read back as
long as the number of its days can be read, and is rejected otherwise. -/

namespace PolicyDecision.Calendar

open Lexical Lexical.Reader

variable {rest : List Char} {designator : Char} {n hours minutes seconds nanos : ℕ}

namespace Reader

/-- A component whose number takes more than 64 bits is left where it is. -/
lemma component_of_le (designator : Char) (hn : Nat.pow 2 64 ≤ n) (hrest : rest.takeWhile Char.isDigit = []) :
    component designator (Decimal.digits n ++ rest) = some (none, Decimal.digits n ++ rest) := by
  have hdigits : digits 1 (Decimal.digits n ++ rest) = some (Decimal.digits n, rest) :=
    digits_append (fun _ => Decimal.isDigit_of_mem_digits) hrest
      (List.length_pos_iff.mpr (Decimal.digits_ne_nil n))
  refine maybe_eq_none (bind_eq_none ?_)
  rw [natural, bind_of_eq hdigits, Decimal.ofDigits_digits, if_neg (Nat.not_lt.mpr hn)]
  rfl

end Reader

namespace DayTimeDuration

/-- What is read of seconds that are written or left out. -/
def readSeconds (seconds nanos : ℕ) : Option Reader.Seconds :=
  if seconds = 0 ∧ nanos = 0 then none else some ⟨seconds, nanos⟩

lemma readSeconds_getD (seconds nanos : ℕ) :
    (readSeconds seconds nanos).getD ⟨0, 0⟩ = ⟨seconds, nanos⟩ := by
  rw [readSeconds]
  split
  case isTrue h => rw [h.1, h.2]; rfl
  case isFalse => rfl

/-- After the whole seconds comes a point or the letter of the seconds. -/
lemma exists_fraction_eq_cons (nanos : ℕ) :
    ∃ c cs, Decimal.fraction 9 nanos ++ ['S'] = c :: cs ∧ c.isDigit = false ∧ c ≠ 'H' ∧
      c ≠ 'M' := by
  rw [Decimal.fraction]
  split
  case isTrue => exact ⟨'S', [], rfl, by decide, by decide, by decide⟩
  case isFalse => exact ⟨'.', _, rfl, by decide, by decide, by decide⟩

lemma seconds_written (hseconds : seconds < Nat.pow 2 64) (hnanos : nanos < 1000000000) :
    Reader.seconds (writtenSeconds seconds nanos) = some (readSeconds seconds nanos, []) := by
  rw [writtenSeconds, readSeconds]
  split
  case isTrue => rfl
  case isFalse =>
    obtain ⟨c, cs, hcs, hdigit, -⟩ := exists_fraction_eq_cons nanos
    have hrest : List.takeWhile Char.isDigit ['S'] = [] := rfl
    obtain ⟨found, hfraction, hfound⟩ := Reader.nanos_append hnanos hrest (by simp)
    have hnumber : natural (Decimal.digits seconds ++ (Decimal.fraction 9 nanos ++ ['S'])) =
        some (seconds, Decimal.fraction 9 nanos ++ ['S']) :=
      reads_natural.complete (.digits hseconds) (by simp [EndsNumber, hcs, hdigit])
    refine maybe_of_eq ?_
    rw [List.append_assoc, bind_of_eq hnumber, bind_of_eq hfraction, bind_of_eq (char_cons 'S' []),
      hfound]
    rfl

/-- Seconds that are written are no component of another sort. -/
lemma component_writtenSeconds (nanos : ℕ) (hseconds : seconds < Nat.pow 2 64)
    (hdesignator : designator = 'H' ∨ designator = 'M') :
    Reader.component designator (writtenSeconds seconds nanos) =
      some (none, writtenSeconds seconds nanos) := by
  rw [writtenSeconds]
  split
  case isTrue => exact Reader.component_of_no_digit rfl
  case isFalse =>
    obtain ⟨c, cs, hcs, hdigit, hhour, hminute⟩ := exists_fraction_eq_cons nanos
    rw [List.append_assoc, hcs]
    refine Reader.component_of_other hseconds hdigit ?_
    rcases hdesignator with rfl | rfl
    · exact hhour
    · exact hminute

/-- Hours, minutes and seconds that are written are read one after the other. -/
lemma timeComponents_written (hhours : hours < Nat.pow 2 64) (hminutes : minutes < Nat.pow 2 64)
    (hseconds : seconds < Nat.pow 2 64) (hnanos : nanos < 1000000000) :
    Reader.timeComponents ('T' :: (writtenComponent hours 'H' ++
        (writtenComponent minutes 'M' ++ writtenSeconds seconds nanos))) =
      some (⟨Reader.readComponent hours, Reader.readComponent minutes,
        readSeconds seconds nanos⟩, []) := by
  have hnoHours := Reader.component_written_other hminutes (by decide) (by decide : 'M' ≠ 'H')
    (component_writtenSeconds nanos hseconds (.inl rfl))
  have hhour := Reader.component_written hhours (by decide) hnoHours
  have hminute := Reader.component_written hminutes (by decide)
    (component_writtenSeconds nanos hseconds (.inr rfl))
  rw [Reader.timeComponents, bind_of_eq (char_cons 'T' _), bind_of_eq hhour, bind_of_eq hminute,
    bind_of_eq (seconds_written hseconds hnanos)]
  rfl

/-- What is read of the part of a day, which is left out if it is zero. -/
def readTime (nanos : ℕ) : Option Reader.TimeComponents :=
  if nanos = 0 then none
  else
    let seconds := nanos / 1000000000
    some ⟨Reader.readComponent (seconds / 3600), Reader.readComponent (seconds / 60 % 60),
      readSeconds (seconds % 60) (nanos % 1000000000)⟩

/-- The part of a day after the days. -/
def writtenRest (nanos : ℕ) : List Char := if nanos = 0 then [] else 'T' :: writtenTime nanos

lemma maybe_timeComponents_writtenRest (h : nanos < nanosPerDay.toNat) :
    maybe Reader.timeComponents (writtenRest nanos) = some (readTime nanos, []) := by
  have hday : nanosPerDay.toNat = 86400000000000 := rfl
  have hlimit : Nat.pow 2 64 = 18446744073709551616 := rfl
  rw [writtenRest, readTime]
  split
  case isTrue => rfl
  case isFalse =>
    rw [writtenTime, List.append_assoc]
    exact maybe_of_eq (timeComponents_written (by omega) (by omega) (by omega) (by omega))

/-- The part of a day that is written has a component. -/
lemma isEmpty_readTime : (readTime nanos).any (·.isEmpty) = false := by
  rw [readTime]
  split
  case isTrue => rfl
  case isFalse h =>
    refine Bool.eq_false_iff.mpr fun hempty => h ?_
    simp only [Option.any_some, Reader.TimeComponents.isEmpty, Bool.and_eq_true,
      Reader.isNone_readComponent, readSeconds] at hempty
    obtain ⟨⟨hhours, hminutes⟩, hseconds⟩ := hempty
    split at hseconds
    case isTrue hzero => omega
    case isFalse => cases hseconds

/-- The whole days of a duration, which are written as one number. -/
def days (d : DayTimeDuration) : ℕ := d.nanos.natAbs / nanosPerDay.toNat

variable (d : DayTimeDuration)

lemma written_of_ne (h : d.nanos ≠ 0) :
    d.written = (if d.nanos < 0 then ['-'] else []) ++ 'P' :: (writtenComponent d.days 'D' ++
      writtenRest (d.nanos.natAbs % nanosPerDay.toNat)) := by
  rw [written, if_neg h, List.append_assoc, List.cons_append]
  rfl

lemma not_blank_writtenTime : ∀ c ∈ writtenTime nanos, Text.isBlank c = false := by
  simp only [writtenTime, List.forall_mem_append]
  refine ⟨⟨not_blank_writtenComponent (by decide), not_blank_writtenComponent (by decide)⟩, ?_⟩
  rw [writtenSeconds]
  split
  case isTrue => simp
  case isFalse =>
    simp only [List.forall_mem_append, List.forall_mem_singleton]
    exact ⟨⟨fun _ hc => Text.isBlank_of_isDigit (Decimal.isDigit_of_mem_digits hc),
      fun _ => Decimal.isBlank_of_mem_fraction⟩, by decide⟩

lemma not_blank_written : ∀ c ∈ d.written, Text.isBlank c = false := by
  by_cases h : d.nanos = 0
  case pos =>
    rw [written, if_pos h]
    simp only [List.forall_mem_cons]
    exact ⟨by decide, by decide, by decide, by decide, by simp⟩
  case neg =>
    rw [d.written_of_ne h]
    simp only [List.forall_mem_append, List.forall_mem_cons, writtenRest]
    refine ⟨?_, by decide, not_blank_writtenComponent (by decide), ?_⟩
    · split
      case isTrue => simp only [List.forall_mem_singleton]; decide
      case isFalse => simp
    · split
      case isTrue => simp
      case isFalse => exact List.forall_mem_cons.mpr ⟨by decide, not_blank_writtenTime⟩

lemma takeWhile_writtenRest (nanos : ℕ) : (writtenRest nanos).takeWhile Char.isDigit = [] := by
  rw [writtenRest]
  split
  case isTrue => rfl
  case isFalse => rfl

variable {d}

/-- Days that can be read are read together with the part of a day after them. -/
lemma reader_written (h : d.nanos ≠ 0) (hdays : d.days < Nat.pow 2 64) :
    ∃ negative : Bool, (negative = true ↔ d.nanos < 0) ∧
      Reader.dayTimeDuration d.written = some (⟨negative, Reader.readComponent d.days,
        readTime (d.nanos.natAbs % nanosPerDay.toNat)⟩, []) := by
  have hletter : char '-' ('P' :: (writtenComponent d.days 'D' ++
      writtenRest (d.nanos.natAbs % nanosPerDay.toNat))) = none := char_eq_none (by simp)
  obtain ⟨found, hminus, hfound⟩ := maybe_minus (p := d.nanos < 0) hletter
  have hday := Reader.component_written hdays (by decide : 'D'.isDigit = false)
    (Reader.component_of_no_digit
      (takeWhile_writtenRest (d.nanos.natAbs % nanosPerDay.toNat)))
  refine ⟨found.isSome, hfound, ?_⟩
  rw [d.written_of_ne h, Reader.dayTimeDuration, bind_of_eq hminus, bind_of_eq (char_cons 'P' _),
    bind_of_eq hday,
    bind_of_eq (maybe_timeComponents_writtenRest (Nat.mod_lt _ (by decide)))]
  rfl

/-- Days that cannot be read are left over together with all that follows them. -/
lemma reader_written_of_le (hdays : Nat.pow 2 64 ≤ d.days) :
    ∃ parts c rest, Reader.dayTimeDuration d.written = some (parts, c :: rest) := by
  have hpos : d.days ≠ 0 := by
    intro hzero
    rw [hzero] at hdays
    exact absurd hdays (by decide)
  have hne : d.nanos ≠ 0 := by
    intro hzero
    refine hpos ?_
    rw [days, hzero]
    rfl
  obtain ⟨c, cs, hcs⟩ := List.exists_cons_of_ne_nil (Decimal.digits_ne_nil d.days)
  have hletter : char '-' ('P' :: (writtenComponent d.days 'D' ++
      writtenRest (d.nanos.natAbs % nanosPerDay.toNat))) = none := char_eq_none (by simp)
  obtain ⟨found, hminus, -⟩ := maybe_minus (p := d.nanos < 0) hletter
  have hrest : ('D' :: writtenRest (d.nanos.natAbs % nanosPerDay.toNat)).takeWhile Char.isDigit =
      [] := rfl
  have hday := Reader.component_of_le 'D' hdays hrest
  have htime : Reader.timeComponents (Decimal.digits d.days ++ 'D' ::
      writtenRest (d.nanos.natAbs % nanosPerDay.toNat)) = none :=
    bind_eq_none (char_digits (fun _ => Decimal.isDigit_of_mem_digits)
      (Decimal.digits_ne_nil d.days) (by decide))
  refine ⟨⟨found.isSome, none, none⟩, c, cs ++ 'D' ::
    writtenRest (d.nanos.natAbs % nanosPerDay.toNat), ?_⟩
  rw [d.written_of_ne hne, writtenComponent, if_neg hpos, List.append_assoc, List.singleton_append]
  rw [writtenComponent, if_neg hpos, List.append_assoc, List.singleton_append] at hminus
  rw [Reader.dayTimeDuration, bind_of_eq hminus, bind_of_eq (char_cons 'P' _), bind_of_eq hday,
    bind_of_eq (maybe_eq_none htime), hcs]
  rfl

/-- The components of a duration make up its nanoseconds. -/
lemma nanos_components (negative : Bool) (d : DayTimeDuration) :
    Reader.DayTimeComponents.nanos ⟨negative, Reader.readComponent d.days,
      readTime (d.nanos.natAbs % nanosPerDay.toNat)⟩ = d.nanos.natAbs := by
  have hday : nanosPerDay.toNat = 86400000000000 := rfl
  simp only [Reader.DayTimeComponents.nanos, Reader.readComponent_getD, days, readTime]
  split
  case isTrue hrest =>
    simp only [Option.getD_none]
    rw [hday] at hrest ⊢
    omega
  case isFalse =>
    simp only [Option.getD_some, Reader.readComponent_getD, readSeconds_getD]
    rw [hday]
    omega

lemma read_written_of_lt (hdays : d.days < Nat.pow 2 64) :
    read (String.ofList d.written) = .ok d := by
  by_cases h : d.nanos = 0
  case pos =>
    obtain ⟨nanos⟩ := d
    obtain rfl : nanos = 0 := h
    rfl
  case neg =>
    obtain ⟨negative, hnegative, hreader⟩ := reader_written h hdays
    have hcomponents : ((Reader.readComponent d.days).isNone &&
        (readTime (d.nanos.natAbs % nanosPerDay.toNat)).isNone) = false := by
      refine Bool.eq_false_iff.mpr fun hnone => h ?_
      obtain ⟨hdays, htime⟩ := Bool.and_eq_true_iff.mp hnone
      have hdays := Reader.isNone_readComponent.mp hdays
      rw [days] at hdays
      rw [readTime] at htime
      split at htime
      case isTrue hrest =>
        refine Int.natAbs_eq_zero.mp ?_
        rw [← Nat.div_add_mod d.nanos.natAbs nanosPerDay.toNat, hdays, hrest, Nat.mul_zero]
      case isFalse => cases htime
    have hsign : (if negative then -(d.nanos.natAbs : ℤ) else d.nanos.natAbs) = d.nanos := by
      split
      case isTrue hminus =>
        have := hnegative.mp hminus
        omega
      case isFalse hplus =>
        have := mt hnegative.mpr hplus
        omega
    rw [read, readWhole_of_eq hreader d.not_blank_written]
    change (if (readTime (d.nanos.natAbs % nanosPerDay.toNat)).any (·.isEmpty) = true
      then _ else _) = _
    rw [isEmpty_readTime, if_neg Bool.false_ne_true]
    change (if ((Reader.readComponent d.days).isNone &&
      (readTime (d.nanos.natAbs % nanosPerDay.toNat)).isNone) = true then _ else _) = _
    rw [hcomponents, if_neg Bool.false_ne_true, nanos_components, hsign]
    rfl

lemma read_written_of_le (hdays : Nat.pow 2 64 ≤ d.days) :
    read (String.ofList d.written) = .error
      (.flawed (.value .dayTimeDuration) (String.ofList d.written) .ungrammatical) := by
  obtain ⟨parts, c, rest, hreader⟩ := reader_written_of_le hdays
  rw [read, readWhole, String.toList_ofList, Text.trimmed_of_not_blank d.not_blank_written,
    whole?, hreader]
  rfl

/-- A duration is read back from the text that it is written as if its whole days take no more than
64 bits. Otherwise that text is rejected, although hours, minutes and seconds that each take 64 bits
are read and can make up more days than that. -/
theorem read_written_eq (d : DayTimeDuration) :
    read (String.ofList d.written) =
      if d.days < Nat.pow 2 64 then .ok d
      else .error
        (.flawed (.value .dayTimeDuration) (String.ofList d.written) .ungrammatical) := by
  split
  case isTrue h => exact read_written_of_lt h
  case isFalse h => exact read_written_of_le (Nat.not_lt.mp h)

/-- As many days as can be read, and one more in hours. -/
theorem exists_read_written_error :
    ∃ text d e, read text = .ok d ∧ read (String.ofList d.written) = .error e := by
  have hread : read "P18446744073709551615DT24H" =
      .ok ⟨18446744073709551616 * 86400000000000⟩ := rfl
  exact ⟨_, _, _, hread, read_written_of_le (by decide)⟩

end DayTimeDuration

end PolicyDecision.Calendar
