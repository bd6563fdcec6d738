import PolicyDecision.Calendar.Day
import PolicyDecision.Calendar.Duration
import PolicyDecision.Calendar.Offset

/-! Dates, times of day, and dates together with a time of day. All carry a time zone. -/

namespace PolicyDecision.Calendar

structure Date where
  year : Int
  month : Nat
  day : Nat
  offset : Offset
  deriving Repr, DecidableEq

namespace Date

def toDay (d : Date) : Day := ⟨d.year, d.month, d.day⟩

def Valid (d : Date) : Prop := d.toDay.Exists ∧ d.offset.Valid

/-- A date of the calendar; the day is checked before the time zone. -/
def make (year : Int) (month day : Nat) (offset : Offset) : Except Lexical.Error Date := do
  if ¬(Day.mk year month day).Exists then throw (.calendarDate year month day)
  offset.check
  return ⟨year, month, day, offset⟩

/-- The first nanosecond of the date, from the epoch. -/
def instant (d : Date) : Int := d.toDay.count * nanosPerDay - d.offset.nanos

def monthIndex (d : Date) : Int := d.year * 12 + d.month - 1

/-- Moves the date by whole months. A day that the new month does not have becomes its last one. -/
def addMonths (d : Date) (months : Int) : Date :=
  let index := d.monthIndex + months
  let year := index / 12
  let month := (index % 12).toNat + 1
  ⟨year, month, min d.day (daysInMonth year month), d.offset⟩

/-- The year has at least four digits. -/
def writtenDay (d : Date) : List Char :=
  (if d.year < 0 then ['-'] else []) ++ Decimal.padded 4 d.year.natAbs ++
    '-' :: Decimal.padded 2 d.month ++ '-' :: Decimal.padded 2 d.day

def written (d : Date) : List Char := d.writtenDay ++ d.offset.written

end Date

/-! Times of day with a time zone. -/

structure Time where
  hour : Nat
  minute : Nat
  second : Nat
  nanos : Nat
  offset : Offset
  deriving Repr, DecidableEq

namespace Time

/-- The components lie on a clock of 24 hours. -/
def OnClock (t : Time) : Prop :=
  t.hour < 24 ∧ t.minute < 60 ∧ t.second < 60 ∧ t.nanos < 1000000000

instance (t : Time) : Decidable t.OnClock := inferInstanceAs (Decidable (_ ∧ _))

def Valid (t : Time) : Prop := t.OnClock ∧ t.offset.Valid

/-- A time of day; the components are checked before the time zone. -/
def make (hour minute second nanos : Nat) (offset : Offset) : Except Lexical.Error Time := do
  let time : Time := ⟨hour, minute, second, nanos, offset⟩
  if ¬time.OnClock then throw (.timeOfDay hour minute second)
  offset.check
  return time

def nanosOfDay (t : Time) : Int :=
  ((t.hour : Int) * 3600 + t.minute * 60 + t.second) * nanosPerSecond + t.nanos

def instant (t : Time) : Int := t.nanosOfDay - t.offset.nanos

/-- The place in the day of UTC. -/
def utcNanosOfDay (t : Time) : Int := t.instant % nanosPerDay

def writtenClock (t : Time) : List Char :=
  Decimal.padded 2 t.hour ++ ':' :: Decimal.padded 2 t.minute ++ ':' :: Decimal.padded 2 t.second ++
    Decimal.fraction 9 t.nanos

def written (t : Time) : List Char := t.writtenClock ++ t.offset.written

/-- Whether a time lies in the part of the day from `start` to `finish`, both included. A range
whose end comes before its start runs past midnight. -/
def inRange (t start finish : Time) : Bool :=
  let t := t.utcNanosOfDay
  let start := start.utcNanosOfDay
  let finish := finish.utcNanosOfDay
  if start ≤ finish then decide (start ≤ t) && decide (t ≤ finish)
  else decide (start ≤ t) || decide (t ≤ finish)

end Time

/-! A date together with a time of day. Both carry the time zone. -/

structure DateTime where
  date : Date
  time : Time
  deriving Repr, DecidableEq

namespace DateTime

def Valid (t : DateTime) : Prop :=
  t.date.Valid ∧ t.time.Valid ∧ t.date.offset = t.time.offset

def make (year : Int) (month day hour minute second nanos : Nat) (offset : Offset) :
    Except Lexical.Error DateTime := do
  let date ← Date.make year month day offset
  let time ← Time.make hour minute second nanos offset
  return ⟨date, time⟩

/-- Nanoseconds from the epoch on the clock of the time zone. -/
def localNanos (t : DateTime) : Int := t.date.toDay.count * nanosPerDay + t.time.nanosOfDay

def instant (t : DateTime) : Int := t.localNanos - t.time.offset.nanos

def ofLocalNanos (nanos : Int) (offset : Offset) : DateTime :=
  let day := Day.ofCount (dayWord (nanos / nanosPerDay))
  let rest := (nanos % nanosPerDay).toNat
  let seconds := rest / 1000000000
  { date := ⟨day.year, day.month, day.day, offset⟩
    time := ⟨seconds / 3600, seconds / 60 % 60, seconds % 60, rest % 1000000000, offset⟩ }

def addDuration (t : DateTime) (d : DayTimeDuration) : DateTime :=
  ofLocalNanos (t.localNanos + d.nanos) t.time.offset

def addMonths (t : DateTime) (months : Int) : DateTime :=
  { t with date := t.date.addMonths months }

/-- The time zone stands once, at the end. -/
def written (t : DateTime) : List Char :=
  t.date.writtenDay ++ 'T' :: t.time.writtenClock ++ t.time.offset.written

end DateTime

end PolicyDecision.Calendar
