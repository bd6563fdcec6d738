import PolicyDecision.Function.Argument

/-! Dates and times moved by durations, and times within a part of the day. -/

namespace PolicyDecision

open Calendar

def Direction.name : Direction → String
  | add => "add"
  | subtract => "subtract"

namespace Shift

def base : Shift → DataType
  | dateTimeByDayTime | dateTimeByYearMonth => .dateTime
  | dateByYearMonth => .date

def duration : Shift → DataType
  | dateTimeByDayTime => .dayTimeDuration
  | dateTimeByYearMonth | dateByYearMonth => .yearMonthDuration

/-- Only values of the two types of a shift can be moved. -/
def move? (direction : Direction) : Value → Value → Option Value
  | .dateTime t, .dayTimeDuration d =>
    some (.dateTime (t.addDuration (if direction = .add then d else d.negated)))
  | .dateTime t, .yearMonthDuration d =>
    some (.dateTime (t.addMonths (if direction = .add then d else d.negated).months))
  | .date t, .yearMonthDuration d =>
    some (.date (t.addMonths (if direction = .add then d else d.negated).months))
  | _, _ => none

def call (s : Shift) (direction : Direction) (args : Arguments) : Outcome Evaluated := do
  args.expectCount 2
  let base ← args.typedAt s.base 0
  let duration ← args.typedAt s.duration 1
  match move? direction base duration with
  | some v => return .value v
  | none => throw (.argument 1 (.value s.duration) (.value duration.type))

end Shift

namespace StandardFunction

def timeAt (args : Arguments) (i : Nat) : Outcome Time := do
  match ← args.typedAt .time i with
  | .time t => return t
  | v => throw (.argument i (.value .time) (.value v.type))

def callTimeInRange (args : Arguments) : Outcome Evaluated := do
  args.expectCount 3
  let t ← timeAt args 0
  let start ← timeAt args 1
  let finish ← timeAt args 2
  return .boolean (t.inRange start finish)

end StandardFunction

end PolicyDecision
