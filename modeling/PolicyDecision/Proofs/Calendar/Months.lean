import PolicyDecision.Proofs.Calendar.DayOrder
import PolicyDecision.Proofs.Calendar.Instant

/-! Dates moved by months. The months are counted exactly; a day is lost only at the end of a month
that is longer than the one it moves to. -/

namespace PolicyDecision.Calendar.Date

open Decimal

variable {d e : Date}

lemma monthIndex_addMonths (d : Date) (months : ℤ) :
    (d.addMonths months).monthIndex = d.monthIndex + months := by
  simp only [addMonths, monthIndex]
  omega

/-- Within one time zone, dates follow each other as their days are counted. -/
lemma instant_le_iff (h : d.offset = e.offset) :
    d.instant ≤ e.instant ↔ d.toDay.count ≤ e.toDay.count := by
  have hday : nanosPerDay = 86400000000000 := rfl
  rw [instant, instant, h, hday]
  omega

lemma fields_le_iff_monthIndex (hd : d.toDay.Exists) (he : e.toDay.Exists) :
    d.toDay.fields ≤ e.toDay.fields ↔
      d.monthIndex < e.monthIndex ∨ d.monthIndex = e.monthIndex ∧ d.day ≤ e.day := by
  obtain ⟨hfirst, hlast, -, -⟩ := hd
  obtain ⟨hfirst', hlast', -, -⟩ := he
  rw [Day.fields_le_iff, monthIndex, monthIndex]
  simp only [toDay] at *
  omega

lemma number_le_iff_monthIndex (hd : d.Valid) (he : e.Valid) :
    d.toDay.number ≤ e.toDay.number ↔
      d.monthIndex < e.monthIndex ∨ d.monthIndex = e.monthIndex ∧ d.day ≤ e.day := by
  rw [Day.number_le_iff hd.1 he.1, fields_le_iff_monthIndex hd.1 he.1]

theorem number_addMonths_le (hd : d.Valid) (he : e.Valid) (months : ℤ)
    (h : d.toDay.number ≤ e.toDay.number) :
    (d.addMonths months).toDay.number ≤ (e.addMonths months).toDay.number := by
  rw [number_le_iff_monthIndex hd he] at h
  rw [number_le_iff_monthIndex (valid_addMonths hd months) (valid_addMonths he months),
    monthIndex_addMonths, monthIndex_addMonths]
  rcases h with hmonth | ⟨hmonth, hday⟩
  · exact .inl (Int.add_lt_add_right hmonth months)
  · refine .inr ⟨congrArg (· + months) hmonth, ?_⟩
    simp only [addMonths, hmonth]
    exact min_le_min_right _ hday

lemma instant_le_iff_number (hd : d.Valid) (he : e.Valid) (hdcounted : d.Counted)
    (hecounted : e.Counted) (h : d.offset = e.offset) :
    d.instant ≤ e.instant ↔ d.toDay.number ≤ e.toDay.number := by
  rw [instant_le_iff h, count_eq hd hdcounted, count_eq he hecounted]

theorem instant_addMonths_le (hd : d.Valid) (he : e.Valid) (hoffset : d.offset = e.offset)
    (hdcounted : d.Counted) (hecounted : e.Counted) {months : ℤ}
    (hdmoved : (d.addMonths months).Counted) (hemoved : (e.addMonths months).Counted)
    (h : d.instant ≤ e.instant) : (d.addMonths months).instant ≤ (e.addMonths months).instant := by
  rw [instant_le_iff_number hd he hdcounted hecounted hoffset] at h
  rw [instant_le_iff_number (valid_addMonths hd months) (valid_addMonths he months) hdmoved hemoved
    hoffset]
  exact number_addMonths_le hd he months h

/-- There and back, only the day can have changed. -/
lemma addMonths_neg (h : d.Valid) (months : ℤ) :
    (d.addMonths months).addMonths (-months) = { d with day := (d.addMonths months).day } := by
  obtain ⟨⟨hfirst, hlast, -, hday⟩, -⟩ := h
  have hindex : (d.addMonths months).monthIndex + -months = d.monthIndex := by
    rw [monthIndex_addMonths, add_neg_cancel_right]
  have hyear : d.monthIndex / 12 = d.year := by
    rw [monthIndex]
    simp only [toDay] at hfirst hlast
    omega
  have hmonth : (d.monthIndex % 12).toNat + 1 = d.month := by
    rw [monthIndex]
    simp only [toDay] at hfirst hlast
    omega
  have hle : (d.addMonths months).day ≤ daysInMonth d.year d.month := (min_le_left _ _).trans hday
  conv_lhs => rw [addMonths]
  simp only [hindex, hyear, hmonth, min_eq_left hle]
  rfl

lemma addMonths_neg_eq_self_iff (h : d.Valid) (months : ℤ) :
    (d.addMonths months).addMonths (-months) = d ↔ (d.addMonths months).day = d.day := by
  rw [addMonths_neg h]
  constructor
  · intro heq
    exact (congrArg Date.day heq :)
  · intro hday
    rw [hday]

/-- A date moved by months is on the calendar, in the month that lies so many months ahead, and on
its own day or else on the last one of that month. The order of the days is kept, and so is that of
the instants in one time zone if the days are counted. Moved back, the date is found again just when
its day was not changed. -/
theorem addMonths_exact (hd : d.Valid) (months : ℤ) :
    ((d.addMonths months).Valid ∧ (d.addMonths months).offset = d.offset ∧
      12 * (d.addMonths months).year + (d.addMonths months).month - 1 =
        12 * d.year + d.month - 1 + months ∧
      (d.addMonths months).day =
        min d.day (daysInMonth (d.addMonths months).year (d.addMonths months).month)) ∧
    (∀ e : Date, e.Valid → d.toDay.number ≤ e.toDay.number →
      (d.addMonths months).toDay.number ≤ (e.addMonths months).toDay.number) ∧
    (∀ e : Date, e.Valid → e.offset = d.offset → d.Counted → e.Counted →
      (d.addMonths months).Counted → (e.addMonths months).Counted → d.instant ≤ e.instant →
        (d.addMonths months).instant ≤ (e.addMonths months).instant) ∧
    ((d.addMonths months).addMonths (-months) = d ↔ (d.addMonths months).day = d.day) := by
  have hindex := monthIndex_addMonths d months
  rw [monthIndex, monthIndex] at hindex
  exact ⟨⟨valid_addMonths hd months, rfl, by omega, rfl⟩,
    fun e he => number_addMonths_le hd he months,
    fun e he hoffset hdcounted hecounted =>
      instant_addMonths_le hd he hoffset.symm hdcounted hecounted,
    addMonths_neg_eq_self_iff hd months⟩

/-- The last day of a year comes to a leap day in two months, and does not come back from it. -/
theorem addMonths_leapDay :
    (Date.mk (-1) 12 31 (some 330)).Valid ∧
      (Date.mk (-1) 12 31 (some 330)).addMonths 2 = ⟨0, 2, 29, some 330⟩ ∧
      ((Date.mk 0 2 29 (some 330)).Valid ∧ (some 330 : Offset) = some 330 ∧
        12 * (0 : ℤ) + (2 : ℕ) - 1 = 12 * (-1) + (12 : ℕ) - 1 + 2 ∧ 29 = min 31 (daysInMonth 0 2)) ∧
      (∀ e : Date, e.Valid → (Date.mk (-1) 12 31 (some 330)).toDay.number ≤ e.toDay.number →
        (Date.mk 0 2 29 (some 330)).toDay.number ≤ (e.addMonths 2).toDay.number) ∧
      (∀ e : Date, e.Valid → e.offset = some 330 → e.Counted → (e.addMonths 2).Counted →
        (Date.mk (-1) 12 31 (some 330)).instant ≤ e.instant →
          (Date.mk 0 2 29 (some 330)).instant ≤ (e.addMonths 2).instant) ∧
      ((Date.mk 0 2 29 (some 330)).addMonths (-2) = ⟨-1, 12, 31, some 330⟩ ↔ 29 = 31) := by
  have hmade : make (-1) 12 31 (some 330) = .ok ⟨-1, 12, 31, some 330⟩ := rfl
  have hvalid := (make_eq_ok.mp hmade).2
  have hmoved : (Date.mk (-1) 12 31 (some 330)).addMonths 2 = ⟨0, 2, 29, some 330⟩ := by decide
  have hcounted : (Date.mk (-1) 12 31 (some 330)).Counted := isWord_iff.mpr (by decide)
  have hmovedCounted : (Date.mk 0 2 29 (some 330)).Counted := isWord_iff.mpr (by decide)
  obtain ⟨hplace, hnumbers, hinstants, hback⟩ := addMonths_exact hvalid 2
  rw [hmoved] at hplace hnumbers hinstants hback
  exact ⟨hvalid, hmoved, hplace, hnumbers,
    fun e he hoffset hecounted hemoved => hinstants e he hoffset hcounted hecounted hmovedCounted
      hemoved, hback⟩

end PolicyDecision.Calendar.Date
