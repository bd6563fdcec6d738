import PolicyDecision.Function.Argument

/-! Equality and order of two values of one type. -/

namespace PolicyDecision

namespace Comparison

def all : List Comparison := [greaterThan, greaterThanOrEqual, lessThan, lessThanOrEqual]

/-- The last part of the names of the functions. -/
def suffix : Comparison → String
  | greaterThan => "greater-than"
  | greaterThanOrEqual => "greater-than-or-equal"
  | lessThan => "less-than"
  | lessThanOrEqual => "less-than-or-equal"

def symbol : Comparison → String
  | greaterThan => ">"
  | greaterThanOrEqual => ">="
  | lessThan => "<"
  | lessThanOrEqual => "<="

def holds : Comparison → Ordering → Bool
  | greaterThan, o => o == .gt
  | greaterThanOrEqual, o => o != .lt
  | lessThan, o => o == .lt
  | lessThanOrEqual, o => o != .gt

/-- Values without an order compare false under every operator. -/
def call (op : Comparison) (type : DataType) (args : Arguments) : Outcome Evaluated := do
  args.expectCount 2
  let a ← args.typedAt type 0
  let b ← args.typedAt type 1
  return .boolean ((a.compare b).any op.holds)

end Comparison

namespace StandardFunction

def callEqual (type : DataType) (args : Arguments) : Outcome Evaluated := do
  args.expectCount 2
  let a ← args.typedAt type 0
  let b ← args.typedAt type 1
  return .boolean (a.same b)

def callEqualIgnoringCase (args : Arguments) : Outcome Evaluated := do
  args.expectCount 2
  let a ← args.stringAt 0
  let b ← args.stringAt 1
  return .boolean (Text.lower a == Text.lower b)

end StandardFunction

end PolicyDecision
