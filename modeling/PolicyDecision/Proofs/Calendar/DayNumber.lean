import PolicyDecision.Calendar.Day
import Mathlib.Data.Int.ConditionallyCompleteOrder
import Mathlib.Tactic.Common
import Mathlib.Tactic.IntervalCases

/-! Every number is the number of a day that the calendar has, and of no other one. A day lies in
exactly one year that begins in March, and within it in one of twelve months. -/

namespace PolicyDecision.Calendar

variable {year days : ℤ} {month day dayOfYear : ℕ}

/-- The days before the first of March of a year, from the first of March of the year zero. -/
def daysBeforeMarch (year : ℤ) : ℤ := 365 * year + year / 4 - year / 100 + year / 400

/-- The number of the day from 1970-01-01 on. -/
def Day.number (d : Day) : ℤ :=
  let year := if d.month ≤ 2 then d.year - 1 else d.year
  daysBeforeMarch year + daysBeforeMonth ((d.month + 9) % 12) + d.day - 1 - epoch

/-- The year beginning in March that holds the day. The mean length of a year gives it up to
one. -/
def marchYear (days : ℤ) : ℤ :=
  let guess := 400 * days / 146097
  if days < daysBeforeMarch guess then guess - 1
  else if daysBeforeMarch (guess + 1) ≤ days then guess + 1
  else guess

/-- The day with a number. -/
def Day.ofNumber (n : ℤ) : Day :=
  let days := n + epoch
  let year := marchYear days
  let dayOfYear := (days - daysBeforeMarch year).toNat
  let month := (5 * dayOfYear + 2) / 153
  { year := if month < 10 then year else year + 1
    month := if month < 10 then month + 3 else month - 9
    day := dayOfYear - daysBeforeMonth month + 1 }

/-- The days of a year that begins in March. Its leap day is that of the year it ends in. -/
def marchYearLength (year : ℤ) : ℕ := if isLeapYear (year + 1) then 366 else 365

lemma isLeapYear_iff (year : ℤ) :
    isLeapYear year = true ↔ year % 4 = 0 ∧ year % 100 ≠ 0 ∨ year % 400 = 0 := by
  simp [isLeapYear]

lemma daysInMonth_pos (year : ℤ) (hfirst : 1 ≤ month) (hlast : month ≤ 12) :
    1 ≤ daysInMonth year month := by
  interval_cases month
  case «2» =>
    rw [daysInMonth]
    split <;> omega
  all_goals exact Nat.le_of_ble_eq_true rfl

lemma daysBeforeMarch_succ (year : ℤ) :
    daysBeforeMarch (year + 1) = daysBeforeMarch year + marchYearLength year := by
  have hleap := isLeapYear_iff (year + 1)
  rw [marchYearLength, daysBeforeMarch, daysBeforeMarch]
  split
  case isTrue h =>
    have := hleap.mp h
    omega
  case isFalse h =>
    have := mt hleap.mpr h
    omega

lemma daysBeforeMarch_marchYear_le (days : ℤ) : daysBeforeMarch (marchYear days) ≤ days := by
  simp only [marchYear]
  split
  case isTrue h =>
    simp only [daysBeforeMarch] at h ⊢
    omega
  case isFalse h =>
    split
    case isTrue h => exact h
    case isFalse => exact not_lt.mp h

lemma lt_daysBeforeMarch_marchYear (days : ℤ) : days < daysBeforeMarch (marchYear days + 1) := by
  simp only [marchYear]
  split
  case isTrue h => rwa [sub_add_cancel]
  case isFalse =>
    split
    case isTrue h =>
      simp only [daysBeforeMarch] at h ⊢
      omega
    case isFalse h => exact not_le.mp h

/-- The place of a day in its year. -/
lemma dayOfYear_lt (days : ℤ) :
    (days - daysBeforeMarch (marchYear days)).toNat < marchYearLength (marchYear days) := by
  have hfirst := daysBeforeMarch_marchYear_le days
  have hnext := lt_daysBeforeMarch_marchYear days
  rw [daysBeforeMarch_succ] at hnext
  omega

lemma marchYearLength_mem (year : ℤ) : 365 ≤ marchYearLength year ∧ marchYearLength year ≤ 366 := by
  rw [marchYearLength]
  split <;> omega

lemma strictMono_daysBeforeMarch : StrictMono daysBeforeMarch := by
  refine strictMono_int_of_lt_succ fun year => ?_
  have hlength := marchYearLength_mem year
  rw [daysBeforeMarch_succ]
  omega

lemma marchYear_eq (hfirst : daysBeforeMarch year ≤ days)
    (hnext : days < daysBeforeMarch (year + 1)) : marchYear days = year := by
  have hbefore : year < marchYear days + 1 := strictMono_daysBeforeMarch.lt_iff_lt.mp
    (hfirst.trans_lt (lt_daysBeforeMarch_marchYear days))
  have hafter : marchYear days < year + 1 := strictMono_daysBeforeMarch.lt_iff_lt.mp
    ((daysBeforeMarch_marchYear_le days).trans_lt hnext)
  omega

/-- The month of a day is the last one that begins on the day or before it. -/
lemma daysBeforeMonth_le_iff :
    daysBeforeMonth month ≤ dayOfYear ↔ month ≤ (5 * dayOfYear + 2) / 153 := by
  rw [daysBeforeMonth]
  omega

lemma monthOfYear_eq (hfirst : daysBeforeMonth month ≤ dayOfYear)
    (hnext : dayOfYear < daysBeforeMonth (month + 1)) : (5 * dayOfYear + 2) / 153 = month := by
  have hbefore := daysBeforeMonth_le_iff.mp hfirst
  have hafter := mt daysBeforeMonth_le_iff.mpr (not_le.mpr hnext)
  omega

/-- A month ends where the next one begins. -/
lemma daysBeforeMonth_add_daysInMonth (year : ℤ) (h : month < 11) :
    daysBeforeMonth month + daysInMonth year (if month < 10 then month + 3 else month - 9) =
      daysBeforeMonth (month + 1) := by
  interval_cases month
  all_goals rfl

/-- February ends with the year. -/
lemma daysBeforeMonth_add_february (year : ℤ) :
    daysBeforeMonth 11 + daysInMonth (year + 1) 2 = marchYearLength year := by
  simp only [daysInMonth, marchYearLength]
  split
  all_goals rfl

namespace Day

/-- A day in a year that begins in March, with March as month zero. -/
def ofMarch (year : ℤ) (month day : ℕ) : Day where
  year := if month < 10 then year else year + 1
  month := if month < 10 then month + 3 else month - 9
  day := day

lemma exists_eq_ofMarch {d : Day} (h : d.Exists) :
    ∃ year month, month < 12 ∧ d = ofMarch year month d.day := by
  obtain ⟨hfirst, hlast, -, -⟩ := h
  by_cases hmarch : d.month ≤ 2
  case pos =>
    refine ⟨d.year - 1, d.month + 9, by omega, ?_⟩
    rw [ofMarch, if_neg (by omega), if_neg (by omega), sub_add_cancel, Nat.add_sub_cancel]
  case neg =>
    refine ⟨d.year, d.month - 3, by omega, ?_⟩
    rw [ofMarch, if_pos (by omega), if_pos (by omega), Nat.sub_add_cancel (by omega)]

lemma number_ofMarch (year : ℤ) (day : ℕ) (hmonth : month < 12) :
    (ofMarch year month day).number =
      daysBeforeMarch year + daysBeforeMonth month + day - 1 - epoch := by
  have hindex : ((ofMarch year month day).month + 9) % 12 = month := by
    simp only [ofMarch]
    split <;> omega
  have hyear : (if (ofMarch year month day).month ≤ 2 then (ofMarch year month day).year - 1
      else (ofMarch year month day).year) = year := by
    simp only [ofMarch]
    split_ifs <;> omega
  rw [number, hindex, hyear]
  rfl

/-- A month lasts until the next one begins, and February until the year ends. -/
lemma exists_ofMarch_iff (year : ℤ) (day : ℕ) (hmonth : month < 12) :
    (ofMarch year month day).Exists ↔
      1 ≤ day ∧ daysBeforeMonth month + day ≤ daysBeforeMonth (month + 1) ∧
        daysBeforeMonth month + day ≤ marchYearLength year := by
  have hyear := marchYearLength_mem year
  have hmonths : 1 ≤ (ofMarch year month day).month ∧ (ofMarch year month day).month ≤ 12 := by
    simp only [ofMarch]
    split <;> omega
  rw [Exists, and_iff_right hmonths.1, and_iff_right hmonths.2]
  rcases Nat.lt_succ_iff_lt_or_eq.mp hmonth with hmonth | rfl
  · have hend := daysBeforeMonth_add_daysInMonth (ofMarch year month day).year hmonth
    have hlast : daysBeforeMonth (month + 1) ≤ 365 := by
      rw [daysBeforeMonth]
      omega
    change 1 ≤ day ∧ day ≤ daysInMonth _ (if month < 10 then month + 3 else month - 9) ↔ _
    omega
  · have hend := daysBeforeMonth_add_february year
    have hlast : daysBeforeMonth (11 + 1) = 367 := rfl
    change 1 ≤ day ∧ day ≤ daysInMonth (year + 1) 2 ↔ _
    omega

/-- The month of the day with a number is the last one that begins on it or before it, and so is its
year. -/
lemma exists_ofNumber_eq (n : ℤ) :
    ∃ month dayOfYear : ℕ, month < 12 ∧ daysBeforeMonth month ≤ dayOfYear ∧
      dayOfYear < daysBeforeMonth (month + 1) ∧
      dayOfYear < marchYearLength (marchYear (n + epoch)) ∧
      n + epoch = daysBeforeMarch (marchYear (n + epoch)) + dayOfYear ∧
      ofNumber n =
        ofMarch (marchYear (n + epoch)) month (dayOfYear - daysBeforeMonth month + 1) := by
  have hmarch := daysBeforeMarch_marchYear_le (n + epoch)
  have hlength := dayOfYear_lt (n + epoch)
  have hyear := marchYearLength_mem (marchYear (n + epoch))
  refine ⟨_, _, ?_, daysBeforeMonth_le_iff.mpr le_rfl,
    not_le.mp (mt daysBeforeMonth_le_iff.mp (Nat.not_succ_le_self _)), hlength, ?_, rfl⟩
  · omega
  · omega

theorem exists_ofNumber (n : ℤ) : (ofNumber n).Exists := by
  obtain ⟨month, dayOfYear, hmonth, hfirst, hnext, hlength, -, heq⟩ := exists_ofNumber_eq n
  rw [heq, exists_ofMarch_iff _ _ hmonth]
  omega

theorem number_ofNumber (n : ℤ) : (ofNumber n).number = n := by
  obtain ⟨month, dayOfYear, hmonth, hfirst, -, -, hdays, heq⟩ := exists_ofNumber_eq n
  rw [heq, number_ofMarch _ _ hmonth]
  omega

theorem ofNumber_number {d : Day} (h : d.Exists) : ofNumber d.number = d := by
  obtain ⟨year, month, hmonth, hd⟩ := exists_eq_ofMarch h
  generalize d.day = day at hd
  subst hd
  obtain ⟨hday, hnext, hlength⟩ := (exists_ofMarch_iff year day hmonth).mp h
  have hdays := number_ofMarch year day hmonth
  have hlast := daysBeforeMarch_succ year
  have hyear : marchYear ((ofMarch year month day).number + epoch) = year :=
    marchYear_eq (by omega) (by omega)
  have hdayOfYear : ((ofMarch year month day).number + epoch - daysBeforeMarch year).toNat =
      daysBeforeMonth month + (day - 1) := by omega
  have hmonthOfYear : (5 * (daysBeforeMonth month + (day - 1)) + 2) / 153 = month :=
    monthOfYear_eq (Nat.le_add_right _ _) (by omega)
  have hdayOfMonth : daysBeforeMonth month + (day - 1) - daysBeforeMonth month + 1 = day := by omega
  simp only [ofNumber, hyear, hdayOfYear, hmonthOfYear, hdayOfMonth]
  rfl

end Day

end PolicyDecision.Calendar

/-! The calendar repeats after an era of 400 years. Within an era the year of a day has a closed
form. Days and numbers that are found by it are the same ones. -/

namespace PolicyDecision.Calendar

variable {year dayOfEra : ℤ}

lemma monotone_commonDays : Monotone commonDays := by
  refine monotone_int_of_le_succ fun day => ?_
  rw [commonDays, commonDays]
  omega

/-- The first and the last day of a year are counted among the 365 days of the year. -/
lemma commonDays_ends : ∀ year : ℕ, year < 400 →
    365 * (year : ℤ) ≤ commonDays (daysBeforeMarch year) ∧
      commonDays (daysBeforeMarch (year + 1) - 1) < 365 * (year + 1) := by
  decide +kernel

lemma yearOfEra_eq (hera : 0 ≤ year ∧ year < 400) (hfirst : daysBeforeMarch year ≤ dayOfEra)
    (hnext : dayOfEra < daysBeforeMarch (year + 1)) : yearOfEra dayOfEra = year := by
  obtain ⟨y, rfl⟩ := Int.eq_ofNat_of_zero_le hera.1
  obtain ⟨hbegin, hend⟩ := commonDays_ends y (by omega)
  -- The count never falls, so that the days between the ends are counted between them.
  have hafter := monotone_commonDays hfirst
  have hbefore := monotone_commonDays (Int.le_sub_one_of_lt hnext)
  rw [yearOfEra]
  omega

lemma daysBeforeMarch_add_era (year era : ℤ) :
    daysBeforeMarch (year + era * 400) = daysBeforeMarch year + era * 146097 := by
  rw [daysBeforeMarch, daysBeforeMarch]
  omega

/-- A year that holds a day of an era is a year of the era. -/
lemma mem_era (hdays : 0 ≤ dayOfEra ∧ dayOfEra < 146097) (hfirst : daysBeforeMarch year ≤ dayOfEra)
    (hnext : dayOfEra < daysBeforeMarch (year + 1)) : 0 ≤ year ∧ year < 400 := by
  have hbegin : daysBeforeMarch 0 < daysBeforeMarch (year + 1) := hdays.1.trans_lt hnext
  have hend : daysBeforeMarch year < daysBeforeMarch 400 := hfirst.trans_lt hdays.2
  rw [strictMono_daysBeforeMarch.lt_iff_lt] at hbegin hend
  omega

/-- The year of a day is a year of its era. -/
lemma marchYear_eq_yearOfEra (days : ℤ) :
    marchYear days = yearOfEra (days - days / 146097 * 146097) + days / 146097 * 400 ∧
      0 ≤ yearOfEra (days - days / 146097 * 146097) ∧
      yearOfEra (days - days / 146097 * 146097) < 400 := by
  have hfirst := daysBeforeMarch_marchYear_le days
  have hnext := lt_daysBeforeMarch_marchYear days
  obtain ⟨year, hyear⟩ : ∃ year, marchYear days = year + days / 146097 * 400 :=
    ⟨marchYear days - days / 146097 * 400, (sub_add_cancel _ _).symm⟩
  rw [hyear, daysBeforeMarch_add_era] at hfirst
  rw [hyear, add_right_comm, daysBeforeMarch_add_era] at hnext
  have hfirst : daysBeforeMarch year ≤ days - days / 146097 * 146097 := by omega
  have hnext : days - days / 146097 * 146097 < daysBeforeMarch (year + 1) := by omega
  have hera := mem_era (by omega) hfirst hnext
  rw [yearOfEra_eq hera hfirst hnext]
  exact ⟨hyear, hera⟩

namespace Day

/-- The number of a day, counted in its era. -/
def numberInEra (d : Day) : ℤ :=
  let year := if d.month ≤ 2 then d.year - 1 else d.year
  let era := year / 400
  let yearOfEra := year - era * 400
  let month := if 2 < d.month then d.month - 3 else d.month + 9
  let dayOfYear : ℤ := (153 * month + 2 : ℕ) / 5 + d.day - 1
  let dayOfEra := yearOfEra * 365 + yearOfEra / 4 - yearOfEra / 100 + dayOfYear
  era * 146097 + dayOfEra - epoch

/-- The day with a number, found in its era. -/
def ofNumberInEra (n : ℤ) : Day :=
  let days := n + epoch
  let era := days / 146097
  let dayOfEra := days - era * 146097
  let year := yearOfEra dayOfEra
  let dayOfYear := (dayOfEra - (365 * year + year / 4 - year / 100)).toNat
  let marchMonth := (5 * dayOfYear + 2) / 153
  let month := if marchMonth < 10 then marchMonth + 3 else marchMonth - 9
  { year := year + era * 400 + if month ≤ 2 then 1 else 0
    month := month
    day := dayOfYear - (153 * marchMonth + 2) / 5 + 1 }

theorem numberInEra_eq {d : Day} (h : d.Exists) : d.numberInEra = d.number := by
  obtain ⟨hfirst, hlast, -, -⟩ := h
  simp only [number, numberInEra, daysBeforeMarch, daysBeforeMonth]
  split_ifs <;> omega

theorem ofNumberInEra_eq (n : ℤ) : ofNumberInEra n = ofNumber n := by
  obtain ⟨hyear, hfirst, hlast⟩ := marchYear_eq_yearOfEra (n + epoch)
  have hlength := dayOfYear_lt (n + epoch)
  have hmarchYear := marchYearLength_mem (marchYear (n + epoch))
  rw [ofNumber, ofNumberInEra]
  rw [hyear, daysBeforeMarch_add_era] at hlength ⊢
  rw [hyear] at hmarchYear
  generalize yearOfEra (n + epoch - (n + epoch) / 146097 * 146097) = year at *
  have hdays : n + epoch - (n + epoch) / 146097 * 146097 - (365 * year + year / 4 - year / 100) =
      n + epoch - (daysBeforeMarch year + (n + epoch) / 146097 * 146097) := by
    rw [daysBeforeMarch]
    omega
  rw [hdays]
  generalize (n + epoch - (daysBeforeMarch year + (n + epoch) / 146097 * 146097)).toNat =
    dayOfYear at *
  simp only [Day.mk.injEq, daysBeforeMonth, and_true]
  split_ifs <;> omega

end Day

end PolicyDecision.Calendar
