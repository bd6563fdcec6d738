import PolicyDecision.Calendar.Offset

/-! Lengths of time, in nanoseconds or in months. -/

namespace PolicyDecision.Calendar

structure DayTimeDuration where
  nanos : Int
  deriving Repr, DecidableEq

structure YearMonthDuration where
  months : Int
  deriving Repr, DecidableEq

/-- A component is written only if it is not zero. -/
def writtenComponent (n : Nat) (designator : Char) : List Char :=
  if n = 0 then [] else Decimal.digits n ++ [designator]

namespace DayTimeDuration

def ofSeconds (seconds : Int) : DayTimeDuration := ⟨seconds * nanosPerSecond⟩

def negated (d : DayTimeDuration) : DayTimeDuration := ⟨-d.nanos⟩

def writtenSeconds (seconds nanos : Nat) : List Char :=
  if seconds = 0 ∧ nanos = 0 then []
  else Decimal.digits seconds ++ Decimal.fraction 9 nanos ++ ['S']

def writtenTime (nanos : Nat) : List Char :=
  let seconds := nanos / 1000000000
  writtenComponent (seconds / 3600) 'H' ++ writtenComponent (seconds / 60 % 60) 'M' ++
    writtenSeconds (seconds % 60) (nanos % 1000000000)

/-- Days, then what is left of a day after the letter that opens the time. -/
def written (d : DayTimeDuration) : List Char :=
  if d.nanos = 0 then ['P', 'T', '0', 'S']
  else
    let size := d.nanos.natAbs
    let rest := size % nanosPerDay.toNat
    (if d.nanos < 0 then ['-'] else []) ++ 'P' :: writtenComponent (size / nanosPerDay.toNat) 'D' ++
      if rest = 0 then [] else 'T' :: writtenTime rest

end DayTimeDuration

namespace YearMonthDuration

def negated (d : YearMonthDuration) : YearMonthDuration := ⟨-d.months⟩

def written (d : YearMonthDuration) : List Char :=
  if d.months = 0 then ['P', '0', 'M']
  else
    let size := d.months.natAbs
    (if d.months < 0 then ['-'] else []) ++ 'P' :: writtenComponent (size / 12) 'Y' ++
      writtenComponent (size % 12) 'M'

end YearMonthDuration

end PolicyDecision.Calendar
