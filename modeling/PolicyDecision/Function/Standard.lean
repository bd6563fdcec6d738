import PolicyDecision.DataType

/-! The functions of the standard library, as names without their behaviour. -/

namespace PolicyDecision

inductive Arithmetic
  | integerAdd
  | integerSubtract
  | integerMultiply
  | integerDivide
  | integerMod
  | integerAbs
  | doubleAdd
  | doubleSubtract
  | doubleMultiply
  | doubleDivide
  | doubleAbs
  | round
  | floor
  | integerToDouble
  | doubleToInteger
  deriving Repr, DecidableEq

inductive Connective
  | or
  | and
  | not
  | nOf
  deriving Repr, DecidableEq

inductive Comparison
  | greaterThan
  | greaterThanOrEqual
  | lessThan
  | lessThanOrEqual
  deriving Repr, DecidableEq

inductive BagOperation
  | oneAndOnly
  | size
  | isIn
  | make
  deriving Repr, DecidableEq

inductive SetOperation
  | intersection
  | atLeastOneMemberOf
  | subset
  | setEquals
  deriving Repr, DecidableEq

/-- A date or a date and time moved by a duration. -/
inductive Shift
  | dateTimeByDayTime
  | dateTimeByYearMonth
  | dateByYearMonth
  deriving Repr, DecidableEq

inductive Direction
  | add
  | subtract
  deriving Repr, DecidableEq

/-- Where one text is looked for in another. -/
inductive Position
  | start
  | finish
  | anywhere
  deriving Repr, DecidableEq

inductive HigherOrder
  | anyOf
  | allOf
  | anyOfAny
  | map
  | allOfAny
  | anyOfAll
  | allOfAll
  deriving Repr, DecidableEq

inductive StandardFunction
  | equal (type : DataType)
  | equalIgnoringCase
  | arithmetic (op : Arithmetic)
  | logical (op : Connective)
  | compare (type : DataType) (op : Comparison)
  | timeInRange
  | shift (s : Shift) (direction : Direction)
  | bag (type : DataType) (op : BagOperation)
  | set (type : DataType) (op : SetOperation)
  | union (type : DataType)
  | higherOrder (op : HigherOrder)
  | concatenate
  | normalizeSpace
  | normalizeToLowerCase
  | occurs (haystack : DataType) (position : Position)
  | substring (type : DataType)
  | fromString (type : DataType)
  | toString (type : DataType)
  | matchesPattern (type : DataType)
  | x500NameMatch
  | rfc822NameMatch
  | nodeCount
  deriving Repr, DecidableEq

end PolicyDecision
