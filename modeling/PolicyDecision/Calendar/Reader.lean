import PolicyDecision.Calendar.DateTime
import PolicyDecision.Lexical.Reader

/-! Dates, times and durations read from text. -/

namespace PolicyDecision.Calendar

open Lexical

namespace Reader

open Lexical.Reader

/-- Four digits or more, in 64 bits with a sign. -/
def year : Reader Int := do
  let negative := (← maybe (char '-')).isSome
  let n := Decimal.ofDigits (← digits 4)
  if negative then
    if n ≤ Nat.pow 2 63 then pure (-(n : Int)) else failure
  else
    if n < Nat.pow 2 63 then pure (n : Int) else failure

/-- Digits after a point, cut to nine of them and read as nanoseconds. -/
def nanos : Reader Nat := do
  char '.'
  let ds ← digits 1
  return Decimal.ofDigits (ds.take 9 ++ List.replicate (9 - ds.length) '0')

def utc : Reader Int := do
  char 'Z'
  return 0

def sign : Reader Bool := fun cs =>
  match cs with
  | '+' :: rest => some (false, rest)
  | '-' :: rest => some (true, rest)
  | _ => none

def zone : Reader Int := do
  let negative ← sign
  let hours ← twoDigits
  char ':'
  let minutes ← twoDigits
  if hours ≤ 14 ∧ minutes ≤ 59 then
    let total : Int := hours * 60 + minutes
    return if negative then -total else total
  else failure

def offset : Reader Offset := maybe (utc <|> zone)

structure Clock where
  hour : Nat
  minute : Nat
  second : Nat
  nanos : Nat
  deriving Repr, DecidableEq

def day : Reader Day := do
  let year ← year
  char '-'
  let month ← twoDigits
  char '-'
  let day ← twoDigits
  return ⟨year, month, day⟩

def clock : Reader Clock := do
  let hour ← twoDigits
  char ':'
  let minute ← twoDigits
  char ':'
  let second ← twoDigits
  let fraction ← maybe nanos
  return ⟨hour, minute, second, fraction.getD 0⟩

def date : Reader (Day × Offset) := do
  let day ← day
  return (day, ← offset)

def time : Reader (Clock × Offset) := do
  let clock ← clock
  return (clock, ← offset)

def dateTime : Reader (Day × Clock × Offset) := do
  let day ← day
  char 'T'
  let clock ← clock
  return (day, clock, ← offset)

def component (designator : Char) : Reader (Option Nat) :=
  maybe do
    let n ← natural
    char designator
    return n

structure Seconds where
  whole : Nat
  nanos : Nat
  deriving Repr, DecidableEq

def seconds : Reader (Option Seconds) :=
  maybe do
    let n ← natural
    let fraction ← maybe nanos
    char 'S'
    return ⟨n, fraction.getD 0⟩

structure TimeComponents where
  hours : Option Nat
  minutes : Option Nat
  seconds : Option Seconds
  deriving Repr, DecidableEq

def TimeComponents.isEmpty (t : TimeComponents) : Bool :=
  t.hours.isNone && t.minutes.isNone && t.seconds.isNone

/-- What follows the letter that opens the time, if it is there. -/
structure DayTimeComponents where
  negative : Bool
  days : Option Nat
  time : Option TimeComponents
  deriving Repr, DecidableEq

def timeComponents : Reader TimeComponents := do
  char 'T'
  let hours ← component 'H'
  let minutes ← component 'M'
  let seconds ← seconds
  return ⟨hours, minutes, seconds⟩

def dayTimeDuration : Reader DayTimeComponents := do
  let negative := (← maybe (char '-')).isSome
  char 'P'
  let days ← component 'D'
  let time ← maybe timeComponents
  return ⟨negative, days, time⟩

structure YearMonthComponents where
  negative : Bool
  years : Option Nat
  months : Option Nat
  deriving Repr, DecidableEq

def yearMonthDuration : Reader YearMonthComponents := do
  let negative := (← maybe (char '-')).isSome
  char 'P'
  let years ← component 'Y'
  let months ← component 'M'
  return ⟨negative, years, months⟩

/-- The nanoseconds of the components. -/
def DayTimeComponents.nanos (c : DayTimeComponents) : Nat :=
  let time := c.time.getD ⟨none, none, none⟩
  let seconds := time.seconds.getD ⟨0, 0⟩
  (c.days.getD 0 * 86400 + time.hours.getD 0 * 3600 + time.minutes.getD 0 * 60 + seconds.whole) *
    1000000000 + seconds.nanos

def YearMonthComponents.total (c : YearMonthComponents) : Nat :=
  c.years.getD 0 * 12 + c.months.getD 0

end Reader

/-- Reads the text between the white space around it. -/
def readWhole (type : DataType) (reader : Reader α) (text : String) : Except Lexical.Error α :=
  match reader.whole? (Text.trimmed text.toList) with
  | some a => .ok a
  | none => .error (.flawed (.value type) text .ungrammatical)

def Date.read (text : String) : Except Lexical.Error Date := do
  let (day, offset) ← readWhole .date Reader.date text
  Date.make day.year day.month day.day offset

def Time.read (text : String) : Except Lexical.Error Time := do
  let (clock, offset) ← readWhole .time Reader.time text
  Time.make clock.hour clock.minute clock.second clock.nanos offset

def DateTime.read (text : String) : Except Lexical.Error DateTime := do
  let (day, clock, offset) ← readWhole .dateTime Reader.dateTime text
  DateTime.make day.year day.month day.day clock.hour clock.minute clock.second clock.nanos offset

def DayTimeDuration.read (text : String) : Except Lexical.Error DayTimeDuration := do
  let parts ← readWhole .dayTimeDuration Reader.dayTimeDuration text
  let refuse flaw := throw (.flawed (.value .dayTimeDuration) text flaw)
  if parts.time.any (·.isEmpty) then refuse .timeWithoutComponent
  if parts.days.isNone && parts.time.isNone then refuse .noComponents
  return ⟨if parts.negative then -(parts.nanos : Int) else parts.nanos⟩

def YearMonthDuration.read (text : String) : Except Lexical.Error YearMonthDuration := do
  let parts ← readWhole .yearMonthDuration Reader.yearMonthDuration text
  let refuse flaw := throw (.flawed (.value .yearMonthDuration) text flaw)
  if parts.years.isNone && parts.months.isNone then refuse .noComponents
  if Nat.pow 2 63 ≤ parts.total then refuse .tooManyMonths
  return ⟨if parts.negative then -(parts.total : Int) else parts.total⟩

end PolicyDecision.Calendar
