import PolicyDecision.Proofs.Calendar.DayCount
import Mathlib.Data.Prod.Lex

/-! The numbers of the days follow the order of the calendar without a gap. -/

namespace PolicyDecision.Calendar.Day

open Decimal

variable {d e : Day} {year year' : ℤ} {month month' day day' : ℕ}

/-- Days are in the order of their years, then of their months, then of the days of the month. -/
def fields (d : Day) : ℤ ×ₗ ℕ ×ₗ ℕ := toLex (d.year, toLex (d.month, d.day))

lemma fields_lt_iff : d.fields < e.fields ↔ d.year < e.year ∨
    d.year = e.year ∧ (d.month < e.month ∨ d.month = e.month ∧ d.day < e.day) := by
  simp only [fields, Prod.Lex.toLex_lt_toLex]

lemma fields_le_iff : d.fields ≤ e.fields ↔ d.year < e.year ∨
    d.year = e.year ∧ (d.month < e.month ∨ d.month = e.month ∧ d.day ≤ e.day) := by
  simp only [fields, Prod.Lex.toLex_le_toLex]

lemma fields_injective : Function.Injective fields := by
  rintro ⟨year, month, day⟩ ⟨year', month', day'⟩ h
  cases h
  rfl

/-- It does not matter for the order with which month the years begin. -/
lemma fields_ofMarch_lt_iff (hmonth : month < 12) (hmonth' : month' < 12) :
    (ofMarch year month day).fields < (ofMarch year' month' day').fields ↔
      year < year' ∨ year = year' ∧ (month < month' ∨ month = month' ∧ day < day') := by
  rw [fields_lt_iff]
  simp only [ofMarch]
  split_ifs <;> omega

/-- A day comes after the end of every earlier year, and after the end of every earlier month. -/
lemma number_lt_number (hd : d.Exists) (he : e.Exists) (h : d.fields < e.fields) :
    d.number < e.number := by
  obtain ⟨year, month, hmonth, hdmarch⟩ := exists_eq_ofMarch hd
  obtain ⟨year', month', hmonth', hemarch⟩ := exists_eq_ofMarch he
  rw [hdmarch] at hd ⊢
  rw [hemarch] at he ⊢
  rw [hdmarch, hemarch, fields_ofMarch_lt_iff hmonth hmonth'] at h
  obtain ⟨-, hnext, hlength⟩ := (exists_ofMarch_iff _ _ hmonth).mp hd
  obtain ⟨hfirst, -, -⟩ := (exists_ofMarch_iff _ _ hmonth').mp he
  rw [number_ofMarch _ _ hmonth, number_ofMarch _ _ hmonth']
  rcases h with hyear | ⟨rfl, hmonths | ⟨rfl, hday⟩⟩
  · have hyears : daysBeforeMarch (year + 1) ≤ daysBeforeMarch year' :=
      strictMono_daysBeforeMarch.monotone hyear
    rw [daysBeforeMarch_succ] at hyears
    omega
  · have hmonths : daysBeforeMonth (month + 1) ≤ daysBeforeMonth month' := by
      simp only [daysBeforeMonth]
      omega
    omega
  · omega

theorem number_lt_iff (hd : d.Exists) (he : e.Exists) :
    d.number < e.number ↔ d.fields < e.fields := by
  refine ⟨fun h => ?_, number_lt_number hd he⟩
  by_contra hfields
  rcases (not_lt.mp hfields).lt_or_eq with hlt | heq
  · exact lt_asymm h (number_lt_number he hd hlt)
  · rw [fields_injective heq] at h
    exact lt_irrefl _ h

theorem number_le_iff (hd : d.Exists) (he : e.Exists) :
    d.number ≤ e.number ↔ d.fields ≤ e.fields := by
  rw [← not_lt, ← not_lt, number_lt_iff he hd]

/-- The day after the last one of a month is the first one of the next month. -/
def next (d : Day) : Day :=
  if d.day < daysInMonth d.year d.month then ⟨d.year, d.month, d.day + 1⟩
  else if d.month < 12 then ⟨d.year, d.month + 1, 1⟩
  else ⟨d.year + 1, 1, 1⟩

lemma exists_next (h : d.Exists) : d.next.Exists := by
  obtain ⟨hfirst, hlast, -, -⟩ := h
  unfold next
  split
  case isTrue hday => exact ⟨hfirst, hlast, Nat.le_add_left 1 _, hday⟩
  case isFalse =>
    split
    case isTrue hmonth =>
      have hmonths := Nat.le_add_left 1 d.month
      exact ⟨hmonths, hmonth, le_rfl, daysInMonth_pos d.year hmonths hmonth⟩
    case isFalse =>
      have hmonth : 1 ≤ 12 := by omega
      exact ⟨le_rfl, hmonth, le_rfl, daysInMonth_pos (d.year + 1) le_rfl hmonth⟩

lemma fields_lt_next (h : d.Exists) : d.fields < d.next.fields := by
  obtain ⟨hfirst, hlast, -, -⟩ := h
  rw [fields_lt_iff, next]
  split
  case isTrue =>
    dsimp only
    omega
  case isFalse =>
    split
    all_goals
      dsimp only
      omega

/-- No day lies between a day and the next one. -/
lemma next_le (hd : d.Exists) (he : e.Exists) (h : d.fields < e.fields) :
    d.next.fields ≤ e.fields := by
  obtain ⟨-, hlast, -, -⟩ := hd
  obtain ⟨hfirst, hlast', hday, hlength⟩ := he
  have hmonths : d.year = e.year → d.month = e.month →
      daysInMonth d.year d.month = daysInMonth e.year e.month := by
    intro hyear hmonth
    rw [hyear, hmonth]
  rw [fields_lt_iff] at h
  rw [fields_le_iff, next]
  split
  case isTrue =>
    dsimp only
    omega
  case isFalse =>
    split
    all_goals
      dsimp only
      omega

theorem number_next (h : d.Exists) : d.next.number = d.number + 1 := by
  -- The day that has the next number comes after this one, so the next day is not after it.
  have hafter := (number_lt_iff h (exists_next h)).mpr (fields_lt_next h)
  have hexists := exists_ofNumber (d.number + 1)
  have hnumber := number_ofNumber (d.number + 1)
  have hlt : d.fields < (ofNumber (d.number + 1)).fields := by
    rw [← number_lt_iff h hexists, hnumber]
    exact Int.lt_succ d.number
  have hbefore := (number_le_iff (exists_next h) hexists).mpr (next_le h hexists hlt)
  omega

/-- The days of the calendar and the integers are numbered by each other, in the same order, and the
next day has the next number. The closed forms of an era give the same numbers and the same days,
and so does the count in words where these are large enough. -/
theorem numbering (hd : d.Exists) (he : e.Exists) (n : ℤ) :
    ((IsWord d.number → d.count = d.number) ∧ (IsWord (n + epoch) → ofCount n = ofNumber n)) ∧
      (d.numberInEra = d.number ∧ ofNumberInEra n = ofNumber n) ∧
      ofNumber d.number = d ∧
      ((ofNumber n).Exists ∧ (ofNumber n).number = n) ∧
      (d.number < e.number ↔ d.fields < e.fields) ∧
      (d.next.Exists ∧ d.fields < d.next.fields ∧
        ∀ f : Day, f.Exists → d.fields < f.fields → d.next.fields ≤ f.fields) ∧
      d.next.number = d.number + 1 :=
  ⟨⟨count_eq_number hd, ofCount_eq_ofNumber⟩, ⟨numberInEra_eq hd, ofNumberInEra_eq n⟩,
    ofNumber_number hd,
    ⟨exists_ofNumber n, number_ofNumber n⟩, number_lt_iff hd he,
    ⟨exists_next hd, fields_lt_next hd, fun _ hf => next_le hd hf⟩, number_next hd⟩

/-- The last year of a century has no leap day, unless it is the last of four. -/
theorem numbering_centuries :
    (Day.mk 1900 2 28).Exists ∧ (Day.mk 2000 2 29).Exists ∧
      ((Day.mk 1900 2 28).count = (Day.mk 1900 2 28).number ∧
        ofCount (-719529) = ofNumber (-719529)) ∧
      ((Day.mk 1900 2 28).numberInEra = (Day.mk 1900 2 28).number ∧
        ofNumberInEra (-719529) = ofNumber (-719529)) ∧
      ofNumber (Day.mk 1900 2 28).number = ⟨1900, 2, 28⟩ ∧
      ((ofNumber (-719529)).Exists ∧ (ofNumber (-719529)).number = -719529) ∧
      ((Day.mk 1900 2 28).number < (Day.mk 2000 2 29).number ↔
        (Day.mk 1900 2 28).fields < (Day.mk 2000 2 29).fields) ∧
      ((Day.mk 1900 3 1).Exists ∧ (Day.mk 1900 2 28).fields < (Day.mk 1900 3 1).fields ∧
        ∀ f : Day, f.Exists → (Day.mk 1900 2 28).fields < f.fields →
          (Day.mk 1900 3 1).fields ≤ f.fields) ∧
      (Day.mk 1900 3 1).number = (Day.mk 1900 2 28).number + 1 := by
  have hday : (Day.mk 1900 2 28).Exists := by decide
  have hleapDay : (Day.mk 2000 2 29).Exists := by decide
  have hnumber : IsWord (Day.mk 1900 2 28).number := isWord_iff.mpr (by decide)
  have hshifted : IsWord (-719529 + epoch) := isWord_iff.mpr (by decide)
  obtain ⟨⟨hcount, hofCount⟩, hexact⟩ := numbering hday hleapDay (-719529)
  exact ⟨hday, hleapDay, ⟨hcount hnumber, hofCount hshifted⟩, hexact⟩

end PolicyDecision.Calendar.Day
