import PolicyDecision.Decimal.Binary64
import PolicyDecision.Function.Argument

/-! Arithmetic on integers of 64 bits and on doubles. -/

namespace PolicyDecision

namespace Arithmetic

def checked (n : Int) : Outcome Int :=
  if Decimal.leastInteger ≤ n ∧ n ≤ Decimal.greatestInteger then .ok n
  else .error .integerOverflow

/-- Each argument is checked when its turn comes, and each result must fit. -/
def foldIntegers (op : Int → Int → Outcome Int) (args : Arguments) : Outcome Int := do
  args.expectAtLeast 2
  (args.indicesFrom 1).foldlM (fun n i => do op n (← args.integerAt i)) (← args.integerAt 0)

def foldDoubles (op : Float → Float → Float) (args : Arguments) : Outcome Float := do
  args.expectAtLeast 2
  (args.indicesFrom 1).foldlM (fun d i => return op d (← args.doubleAt i)) (← args.doubleAt 0)

def quotient (a b : Int) : Outcome Int := checked (a.tdiv b)

/-- The remainder of the truncated quotient, which must fit as well. -/
def remainder (a b : Int) : Outcome Int := do
  let _ ← quotient a b
  return a.tmod b

def divideWith (op : Int → Int → Outcome Int) (args : Arguments) : Outcome Int := do
  args.expectCount 2
  if (← args.integerAt 1) = 0 then throw .divisionByZero
  foldIntegers op args

def divideDoubles (args : Arguments) : Outcome Float := do
  args.expectCount 2
  let divisor ← args.doubleAt 1
  if divisor == 0 then throw .divisionByZero
  return (← args.doubleAt 0) / divisor

/-- The whole part of a double, if it fits in 64 bits. -/
def toInteger (d : Float) : Outcome Int :=
  let whole := Decimal.Rounding.towardZero.apply d
  if Decimal.Binary64.isFinite d then
    (checked (Decimal.truncated d)).mapError fun _ => .beyondIntegers whole
  else .error (.beyondIntegers whole)

def call (op : Arithmetic) (args : Arguments) : Outcome Evaluated := do
  let onInteger (f : Int → Outcome Value) : Outcome Value := do
    args.expectCount 1
    f (← args.integerAt 0)
  let onDouble (f : Float → Outcome Value) : Outcome Value := do
    args.expectCount 1
    f (← args.doubleAt 0)
  .value <$> match op with
    | integerAdd => .integer <$> foldIntegers (fun a b => checked (a + b)) args
    | integerMultiply => .integer <$> foldIntegers (fun a b => checked (a * b)) args
    | integerSubtract => do
      args.expectCount 2
      .integer <$> foldIntegers (fun a b => checked (a - b)) args
    | integerDivide => .integer <$> divideWith quotient args
    | integerMod => .integer <$> divideWith remainder args
    | integerAbs => onInteger fun n => .integer <$> checked n.natAbs
    | doubleAdd => .double <$> foldDoubles (· + ·) args
    | doubleMultiply => .double <$> foldDoubles (· * ·) args
    | doubleSubtract => do
      args.expectCount 2
      .double <$> foldDoubles (· - ·) args
    | doubleDivide => .double <$> divideDoubles args
    | doubleAbs => onDouble fun d => .ok (.double d.abs)
    | round => onDouble fun d => .ok (.double (Decimal.Rounding.nearestEven.apply d))
    | floor => onDouble fun d => .ok (.double (Decimal.Rounding.down.apply d))
    | integerToDouble => onInteger fun n => .ok (.double (Float.ofInt n))
    | doubleToInteger => onDouble fun d => .integer <$> toInteger d

end Arithmetic

end PolicyDecision
