import PolicyDecision.Proofs.Calendar.Movement

/-! Dates with a time of day, moved along the line of time. On the clock of its time zone such a
date is one number of nanoseconds, and it is found again from it as long as the day is one of those
that are counted from the year zero. -/

namespace PolicyDecision.Calendar

open Decimal

/-- The count of its day is the number of the day. -/
def Date.Counted (d : Date) : Prop := IsWord d.toDay.number

lemma Date.count_eq {d : Date} (h : d.Valid) (hcounted : d.Counted) :
    d.toDay.count = d.toDay.number :=
  Day.count_eq_number h.1 hcounted

namespace Time

end Time

namespace DateTime

variable {s t : DateTime} {d : DayTimeDuration} {nanos : ℤ} {offset : Offset}

end DateTime

end PolicyDecision.Calendar
