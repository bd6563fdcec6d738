/-! Days of the proleptic Gregorian calendar, counted from 1970-01-01. -/

namespace PolicyDecision.Calendar

def isLeapYear (year : Int) : Bool :=
  (year % 4 == 0 && year % 100 != 0) || year % 400 == 0

/-- The length of a month. A number that is no month has no days. -/
def daysInMonth (year : Int) (month : Nat) : Nat :=
  match month with
  | 1 | 3 | 5 | 7 | 8 | 10 | 12 => 31
  | 4 | 6 | 9 | 11 => 30
  | 2 => if isLeapYear year then 29 else 28
  | _ => 0

/-- A year, a month and a day of the month. -/
structure Day where
  year : Int
  month : Nat
  day : Nat
  deriving Repr, DecidableEq

/-- The days that the calendar has. -/
def Day.Exists (d : Day) : Prop :=
  1 ≤ d.month ∧ d.month ≤ 12 ∧ 1 ≤ d.day ∧ d.day ≤ daysInMonth d.year d.month

instance (d : Day) : Decidable d.Exists := inferInstanceAs (Decidable (_ ∧ _))

/-- The day 1970-01-01, counted from the first of March of the year zero. The years are taken to
begin in March, so that a leap day is the last day of its year. -/
def epoch : Int := 719468

/-- The days from the first of March to the first of the month, with March as month zero. -/
def daysBeforeMonth (month : Nat) : Nat := (153 * month + 2) / 5

/-- A day of an era of 400 years, counted without the leap days before it. There is one in 1460
days, but none at the end of a century, unless the era ends with it. -/
def commonDays (dayOfEra : Int) : Int :=
  dayOfEra - dayOfEra / 1460 + dayOfEra / 36524 - dayOfEra / 146096

def yearOfEra (dayOfEra : Int) : Int := commonDays dayOfEra / 365

/-- Days are counted in signed words of 64 bits. A number out of their range wraps. -/
def dayWord (n : Int) : Int := n.bmod (Nat.pow 2 64)

/-- The number of the day from 1970-01-01 on. Where it is not a word, or the steps to it are not,
they wrap. -/
def Day.count (d : Day) : Int :=
  let year := if d.month ≤ 2 then dayWord (d.year - 1) else d.year
  let era := year / 400
  let yearOfEra := dayWord (year - dayWord (era * 400))
  let month := if 2 < d.month then d.month - 3 else d.month + 9
  let dayOfYear : Int := daysBeforeMonth month + d.day - 1
  let dayOfEra := yearOfEra * 365 + yearOfEra / 4 - yearOfEra / 100 + dayOfYear
  dayWord (dayWord (dayWord (era * 146097) + dayOfEra) - epoch)

/-- The day with a number. The last numbers wrap when they are counted from the year zero. -/
def Day.ofCount (n : Int) : Day :=
  let days := dayWord (n + epoch)
  let era := days / 146097
  let dayOfEra := dayWord (days - dayWord (era * 146097))
  let year := yearOfEra dayOfEra
  let dayOfYear := (dayOfEra - (365 * year + year / 4 - year / 100)).toNat
  let marchMonth := (5 * dayOfYear + 2) / 153
  let month := if marchMonth < 10 then marchMonth + 3 else marchMonth - 9
  { year := year + era * 400 + if month ≤ 2 then 1 else 0
    month := month
    day := dayOfYear - daysBeforeMonth marchMonth + 1 }

end PolicyDecision.Calendar
