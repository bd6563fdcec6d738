import PolicyDecision.Proofs.Bag.Membership
import PolicyDecision.Proofs.Calendar.Instant
import PolicyDecision.Proofs.Calendar.Months

/-! Equality and order of values. Dates and times are told by their instants; in one time zone the
instants lie in the order of what is written down, the larger units first. -/

namespace PolicyDecision

open Calendar Decimal

namespace Calendar

namespace Time

variable {s t : Time}

/-- What a clock shows, the hours first. -/
def fields (t : Time) : ℕ ×ₗ ℕ ×ₗ ℕ ×ₗ ℕ :=
  toLex (t.hour, toLex (t.minute, toLex (t.second, t.nanos)))

lemma fields_lt_iff : s.fields < t.fields ↔ s.hour < t.hour ∨ s.hour = t.hour ∧
    (s.minute < t.minute ∨ s.minute = t.minute ∧
      (s.second < t.second ∨ s.second = t.second ∧ s.nanos < t.nanos)) := by
  simp only [fields, Prod.Lex.toLex_lt_toLex]

end Time

namespace DateTime

variable {s t : DateTime}

/-- The fields of the date, then those of the time of day. -/
def fields (t : DateTime) : (ℤ ×ₗ ℕ ×ₗ ℕ) ×ₗ ℕ ×ₗ ℕ ×ₗ ℕ ×ₗ ℕ :=
  toLex (t.date.toDay.fields, t.time.fields)

end DateTime

end Calendar

namespace Value

variable {type : DataType} {a b : Value}

/-- The number by which a value is compared, if it is not a text. -/
def position : Value → ℤ
  | integer n => n
  | date d => d.instant
  | time t => t.instant
  | dateTime t => t.instant
  | dayTimeDuration d => d.nanos
  | yearMonthDuration d => d.months
  | _ => 0

end Value

end PolicyDecision
