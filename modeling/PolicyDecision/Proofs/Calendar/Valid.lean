import PolicyDecision.Calendar.DateTime
import PolicyDecision.Proofs.Stateful
import Mathlib.Data.Int.Notation
import Mathlib.Tactic.Common

/-! The dates and times that can be made are the valid ones. -/

namespace PolicyDecision.Calendar

open Stateful

variable {year : ℤ} {month day hour minute second nanos : ℕ} {offset : Offset}

lemma daysInMonth_le (year : ℤ) (month : ℕ) : daysInMonth year month ≤ 31 := by
  unfold daysInMonth
  split
  any_goals omega
  split <;> omega

lemma Offset.check_eq_ok : offset.check = .ok () ↔ offset.Valid := by
  cases offset with
  | none => simp [check, Valid]
  | some minutes =>
    rw [check]
    split
    case isTrue h => simp [Valid, h]
    case isFalse h => simp [Valid, Nat.not_lt.mp h]

/-- A value is made if it passes a check of its own and its time zone passes one. -/
lemma checked_eq_ok {α : Type} {p : Prop} [Decidable p] {e : Lexical.Error} {a b : α} :
    (do if ¬p then throw e
        offset.check
        return a : Except Lexical.Error α) = .ok b ↔ b = a ∧ p ∧ offset.Valid := by
  by_cases hp : p
  case pos =>
    rw [if_neg (not_not_intro hp), except_bind_eq_ok]
    constructor
    · rintro ⟨⟨⟩, hcheck, hb⟩
      cases hb
      exact ⟨rfl, hp, Offset.check_eq_ok.mp hcheck⟩
    · rintro ⟨rfl, -, hoffset⟩
      exact ⟨⟨⟩, Offset.check_eq_ok.mpr hoffset, rfl⟩
  case neg =>
    rw [if_pos hp]
    constructor
    · intro h
      cases h
    · rintro ⟨-, h, -⟩
      exact absurd h hp

theorem Date.make_eq_ok {d : Date} :
    make year month day offset = .ok d ↔ d = ⟨year, month, day, offset⟩ ∧ d.Valid := by
  rw [make, checked_eq_ok]
  refine and_congr_right fun hd => ?_
  rw [hd]
  rfl

theorem Time.make_eq_ok {t : Time} :
    make hour minute second nanos offset = .ok t ↔
      t = ⟨hour, minute, second, nanos, offset⟩ ∧ t.Valid := by
  rw [make, checked_eq_ok]
  refine and_congr_right fun ht => ?_
  rw [ht]
  rfl

theorem DateTime.make_eq_ok {t : DateTime} :
    make year month day hour minute second nanos offset = .ok t ↔
      t = ⟨⟨year, month, day, offset⟩, ⟨hour, minute, second, nanos, offset⟩⟩ ∧ t.Valid := by
  rw [make, except_bind_eq_ok]
  constructor
  · rintro ⟨date, hdate, h⟩
    obtain ⟨time, htime, ht⟩ := except_bind_eq_ok.mp h
    obtain ⟨rfl, hdate⟩ := Date.make_eq_ok.mp hdate
    obtain ⟨rfl, htime⟩ := Time.make_eq_ok.mp htime
    cases ht
    exact ⟨rfl, hdate, htime, rfl⟩
  · rintro ⟨rfl, hdate, htime, -⟩
    exact ⟨_, Date.make_eq_ok.mpr ⟨rfl, hdate⟩,
      except_bind_eq_ok.mpr ⟨_, Time.make_eq_ok.mpr ⟨rfl, htime⟩, rfl⟩⟩

end PolicyDecision.Calendar
