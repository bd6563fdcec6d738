import PolicyDecision.Proofs.Calendar.DayNumber
import PolicyDecision.Proofs.Decimal.Digits

/-! Days are counted in words. The count is the number of the day as long as that is a word; the day
with a number is found as long as the number is one from the first of March of the year zero too. -/

namespace PolicyDecision.Calendar

open Decimal

variable {n : ℤ}

lemma dayWord_eq_bmod (n : ℤ) : dayWord n = n.bmod 18446744073709551616 := rfl

lemma isWord_dayWord (n : ℤ) : IsWord (dayWord n) := by
  rw [isWord_iff, dayWord_eq_bmod, Int.bmod_def]
  split <;> omega

lemma dayWord_of_isWord (h : IsWord n) : dayWord n = n := by
  rw [isWord_iff] at h
  rw [dayWord_eq_bmod, Int.bmod_def]
  split <;> omega

lemma dayWord_eq_self_iff : dayWord n = n ↔ IsWord n :=
  ⟨fun h => h ▸ isWord_dayWord n, dayWord_of_isWord⟩

/-! Only the last of several steps has to be a word, as the other ones wrap back. -/

lemma dayWord_add_left (m n : ℤ) : dayWord (dayWord m + n) = dayWord (m + n) := Int.bmod_add_bmod

lemma dayWord_sub_left (m n : ℤ) : dayWord (dayWord m - n) = dayWord (m - n) := Int.bmod_sub_bmod

lemma dayWord_sub_right (m n : ℤ) : dayWord (m - dayWord n) = dayWord (m - n) := Int.sub_bmod_bmod

namespace Day

variable {d : Day}

/-- The steps of the count wrap to the wrapped number, if the year before is a word. -/
lemma count_eq_dayWord (h : d.Exists) (hyear : IsWord (d.year - 1)) :
    d.count = dayWord d.number := by
  have hera (year : ℤ) : dayWord (year - dayWord (year / 400 * 400)) = year - year / 400 * 400 := by
    rw [dayWord_sub_right]
    exact dayWord_of_isWord (isWord_iff.mpr (by omega))
  rw [← numberInEra_eq h]
  simp only [count, numberInEra, hera, dayWord_of_isWord hyear, dayWord_add_left, dayWord_sub_left]
  rfl

/-- The number of a day leaves room for its year, and for the steps of the count as well. -/
lemma isWord_year_sub_one (h : d.Exists) (hleast : -18446744073709551616 ≤ d.number)
    (hgreatest : d.number ≤ 18446744073709551616) : IsWord (d.year - 1) := by
  obtain ⟨year, month, hmonth, hd⟩ := exists_eq_ofMarch h
  have hyear : d.year = year ∨ d.year = year + 1 := by
    rw [hd, ofMarch]
    exact ite_eq_or_eq _ _ _
  have hlength := marchYearLength_mem year
  rw [hd] at h hleast hgreatest
  obtain ⟨hfirst, -, hlast⟩ := (exists_ofMarch_iff _ _ hmonth).mp h
  rw [number_ofMarch _ _ hmonth, daysBeforeMarch, epoch] at hleast hgreatest
  rw [isWord_iff]
  omega

theorem count_eq_number (h : d.Exists) (hnumber : IsWord d.number) : d.count = d.number := by
  have hword := isWord_iff.mp hnumber
  rw [count_eq_dayWord h (isWord_year_sub_one h (by omega) (by omega)), dayWord_of_isWord hnumber]

/-- The day that is found has the number that the days from the year zero come to. -/
lemma ofCount_eq (n : ℤ) : ofCount n = ofNumber (dayWord (n + epoch) - epoch) := by
  have hera (days : ℤ) :
      dayWord (days - dayWord (days / 146097 * 146097)) = days - days / 146097 * 146097 := by
    rw [dayWord_sub_right]
    exact dayWord_of_isWord (isWord_iff.mpr (by omega))
  rw [← ofNumberInEra_eq]
  simp only [ofCount, ofNumberInEra, hera, sub_add_cancel]
  rfl

theorem ofCount_eq_ofNumber (h : IsWord (n + epoch)) : ofCount n = ofNumber n := by
  rw [ofCount_eq, dayWord_of_isWord h, add_sub_cancel_right]

theorem exists_ofCount (n : ℤ) : (ofCount n).Exists := ofCount_eq n ▸ exists_ofNumber _

lemma number_ofCount (n : ℤ) : (ofCount n).number = dayWord (n + epoch) - epoch := by
  rw [ofCount_eq, number_ofNumber]

/-- The day that is found has the number, if that is also one from the year zero on. -/
theorem number_ofCount_eq_iff : (ofCount n).number = n ↔ IsWord (n + epoch) := by
  rw [number_ofCount, sub_eq_iff_eq_add, dayWord_eq_self_iff]

end Day

end PolicyDecision.Calendar
