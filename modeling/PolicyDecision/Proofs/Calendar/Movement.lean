import PolicyDecision.Function.Shift
import PolicyDecision.Proofs.Calendar.DayCount
import PolicyDecision.Proofs.Calendar.RoundTrip
import Mathlib.Logic.Relation

/-! Dates and times stay on the calendar however often they are moved or taken apart. Moving makes
its results without the checks by which a date or a time of day is made; these would accept them. -/

namespace PolicyDecision

open Calendar Stateful

namespace Calendar

theorem Date.valid_addMonths {d : Date} (h : d.Valid) (months : ℤ) :
    (d.addMonths months).Valid := by
  obtain ⟨⟨-, -, hday, -⟩, hoffset⟩ := h
  have hmonth : ((d.monthIndex + months) % 12).toNat + 1 ≤ 12 := by omega
  have hpos := daysInMonth_pos ((d.monthIndex + months) / 12) (Nat.le_add_left 1 _) hmonth
  exact ⟨⟨Nat.le_add_left 1 _, hmonth, le_min hday hpos, min_le_right _ _⟩, hoffset⟩

namespace DateTime

lemma onClock_ofLocalNanos (nanos : ℤ) (offset : Offset) :
    (ofLocalNanos nanos offset).time.OnClock := by
  have hday : nanosPerDay = 86400000000000 := rfl
  simp only [ofLocalNanos, Time.OnClock, hday]
  omega

theorem valid_ofLocalNanos (nanos : ℤ) {offset : Offset} (h : offset.Valid) :
    (ofLocalNanos nanos offset).Valid :=
  ⟨⟨Day.exists_ofCount _, h⟩, ⟨onClock_ofLocalNanos nanos offset, h⟩, rfl⟩

theorem valid_addDuration {t : DateTime} (h : t.Valid) (d : DayTimeDuration) :
    (t.addDuration d).Valid :=
  valid_ofLocalNanos _ h.2.1.2

theorem valid_addMonths {t : DateTime} (h : t.Valid) (months : ℤ) : (t.addMonths months).Valid :=
  ⟨Date.valid_addMonths h.1 months, h.2⟩

end DateTime

end Calendar

namespace Value

/-- A date, a time of day or both, as they are made of components or read from a text. -/
inductive Given : Value → Prop
  | date {year : ℤ} {month day : ℕ} {offset : Offset} {d : Date}
      (made : Date.make year month day offset = .ok d) : Given (.date d)
  | time {hour minute second nanos : ℕ} {offset : Offset} {t : Time}
      (made : Time.make hour minute second nanos offset = .ok t) : Given (.time t)
  | dateText {text : String} {d : Date} (read : Date.read text = .ok d) : Given (.date d)
  | timeText {text : String} {t : Time} (read : Time.read text = .ok t) : Given (.time t)
  | dateTimeText {text : String} {t : DateTime} (read : DateTime.read text = .ok t) :
      Given (.dateTime t)

/-- A value is moved, or a part of it is taken. -/
inductive Moves : Value → Value → Prop
  | dateByMonths (d : Date) (months : ℤ) : Moves (.date d) (.date (d.addMonths months))
  | byMonths (t : DateTime) (months : ℤ) : Moves (.dateTime t) (.dateTime (t.addMonths months))
  | byDuration (t : DateTime) (d : DayTimeDuration) :
      Moves (.dateTime t) (.dateTime (t.addDuration d))
  | shift {s : Shift} {direction : Direction} {args : Arguments} {v w : Value}
      (called : s.call direction (.value v :: args) = .ok (.value w)) : Moves v w
  | datePart (t : DateTime) : Moves (.dateTime t) (.date t.date)
  | timePart (t : DateTime) : Moves (.dateTime t) (.time t.time)

/-- What holds of the dates and times that are values. -/
def OnCalendar : Value → Prop
  | .date d => d.Valid
  | .time t => t.Valid
  | .dateTime t => t.Valid
  | _ => False

/-- The components of a date and of a time of day would be accepted, and the parts of a date with
a time lie in one time zone. -/
def Accepted : Value → Prop
  | .date d => Date.make d.year d.month d.day d.offset = .ok d
  | .time t => Time.make t.hour t.minute t.second t.nanos t.offset = .ok t
  | .dateTime t =>
    Date.make t.date.year t.date.month t.date.day t.date.offset = .ok t.date ∧
      Time.make t.time.hour t.time.minute t.time.second t.time.nanos t.time.offset = .ok t.time ∧
        t.date.offset = t.time.offset
  | _ => False

variable {v w : Value}

lemma accepted_iff : v.Accepted ↔ v.OnCalendar := by
  cases v with
  | date d => exact Date.make_eq_ok.trans (and_iff_right rfl)
  | time t => exact Time.make_eq_ok.trans (and_iff_right rfl)
  | dateTime t =>
    have hdate := Date.make_eq_ok.trans (and_iff_right (rfl : t.date = _))
    have htime := Time.make_eq_ok.trans (and_iff_right (rfl : t.time = _))
    exact and_congr hdate (and_congr_left' htime)
  | _ => exact Iff.rfl

lemma Given.onCalendar (h : v.Given) : v.OnCalendar := by
  cases h with
  | date made => exact (Date.make_eq_ok.mp made).2
  | time made => exact (Time.make_eq_ok.mp made).2
  | dateText read => exact (Date.readable_of_read read).1
  | timeText read => exact Time.valid_of_read read
  | dateTimeText read => exact (DateTime.readable_of_read read).1

lemma exists_move?_of_call {s : Shift} {direction : Direction} {args : Arguments}
    (h : s.call direction (.value v :: args) = .ok (.value w)) :
    ∃ d, Shift.move? direction v d = some w := by
  obtain ⟨-, -, h⟩ := except_bind_eq_ok.mp h
  obtain ⟨base, hbase, h⟩ := except_bind_eq_ok.mp h
  obtain ⟨v', hv, hbase⟩ := except_bind_eq_ok.mp hbase
  cases hv
  obtain ⟨d, -, h⟩ := except_bind_eq_ok.mp h
  split at hbase
  case isFalse => cases hbase
  case isTrue =>
    cases hbase
    split at h
    case h_1 moved hmove =>
      cases h
      exact ⟨d, hmove⟩
    case h_2 => cases h

lemma onCalendar_of_move? {direction : Direction} {d : Value} (hv : v.OnCalendar)
    (h : Shift.move? direction v d = some w) : w.OnCalendar := by
  unfold Shift.move? at h
  split at h
  case h_1 t d =>
    cases h
    exact DateTime.valid_addDuration hv _
  case h_2 t d =>
    cases h
    exact DateTime.valid_addMonths hv _
  case h_3 t d =>
    cases h
    exact Date.valid_addMonths hv _
  case h_4 => cases h

theorem onCalendar_of_moves (hv : v.OnCalendar) (h : v.Moves w) : w.OnCalendar := by
  cases h with
  | dateByMonths d months => exact Date.valid_addMonths hv months
  | byMonths t months => exact DateTime.valid_addMonths hv months
  | byDuration t d => exact DateTime.valid_addDuration hv d
  | shift called =>
    obtain ⟨d, hmove⟩ := exists_move?_of_call called
    exact onCalendar_of_move? hv hmove
  | datePart t => exact hv.1
  | timePart t => exact hv.2.1

lemma onCalendar_of_run (hv : v.OnCalendar) (h : Relation.ReflTransGen Moves v w) :
    w.OnCalendar := by
  induction h with
  | refl => exact hv
  | tail _ hstep ih => exact onCalendar_of_moves ih hstep

/-- Whatever is made of an accepted value, step by step, is accepted again. -/
theorem accepted_of_run (hv : v.Given) (h : Relation.ReflTransGen Moves v w) : w.Accepted :=
  accepted_iff.mpr (onCalendar_of_run hv.onCalendar h)

/-- A month back from the end of March is the leap day, and an hour before that the day before. -/
theorem accepted_of_run_leapDay :
    Given (.dateTime ⟨⟨2024, 3, 31, some 330⟩, ⟨0, 30, 0, 0, some 330⟩⟩) ∧
      Relation.ReflTransGen Moves
        (.dateTime ⟨⟨2024, 3, 31, some 330⟩, ⟨0, 30, 0, 0, some 330⟩⟩)
        (.date ⟨2024, 2, 28, some 330⟩) ∧
      Accepted (.date ⟨2024, 2, 28, some 330⟩) := by
  have hmade : DateTime.make 2024 3 31 0 30 0 0 (some 330) =
      .ok ⟨⟨2024, 3, 31, some 330⟩, ⟨0, 30, 0, 0, some 330⟩⟩ := rfl
  have hvalid := (DateTime.make_eq_ok.mp hmade).2
  have hgiven : Given (.dateTime ⟨⟨2024, 3, 31, some 330⟩, ⟨0, 30, 0, 0, some 330⟩⟩) :=
    .dateTimeText (DateTime.read_written ⟨hvalid, Decimal.isWord_iff.mpr (by decide)⟩)
  have hmonth : Shift.call .dateTimeByYearMonth .subtract
      [.value (.dateTime ⟨⟨2024, 3, 31, some 330⟩, ⟨0, 30, 0, 0, some 330⟩⟩),
        .value (.yearMonthDuration ⟨1⟩)] =
      .ok (.value (.dateTime ⟨⟨2024, 2, 29, some 330⟩, ⟨0, 30, 0, 0, some 330⟩⟩)) := rfl
  have hhour : DateTime.addDuration ⟨⟨2024, 2, 29, some 330⟩, ⟨0, 30, 0, 0, some 330⟩⟩
      (.ofSeconds (-3600)) = ⟨⟨2024, 2, 28, some 330⟩, ⟨23, 30, 0, 0, some 330⟩⟩ := by decide
  have hback := hhour ▸ Moves.byDuration _ (.ofSeconds (-3600))
  have hrun : Relation.ReflTransGen Moves
      (.dateTime ⟨⟨2024, 3, 31, some 330⟩, ⟨0, 30, 0, 0, some 330⟩⟩)
      (.date ⟨2024, 2, 28, some 330⟩) :=
    .tail (.tail (.single (.shift hmonth)) hback) (.datePart _)
  exact ⟨hgiven, hrun, accepted_of_run hgiven hrun⟩

end Value

end PolicyDecision
