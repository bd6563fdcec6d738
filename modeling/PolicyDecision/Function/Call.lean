import PolicyDecision.Function.Arithmetic
import PolicyDecision.Function.Collection
import PolicyDecision.Function.Comparison
import PolicyDecision.Function.Connective
import PolicyDecision.Function.HigherOrder
import PolicyDecision.Function.Shift
import PolicyDecision.Function.Text

/-! Calls of functions. -/

namespace PolicyDecision

/-- A function that is not of the standard library. -/
abbrev CustomFunction := Arguments → FunctionContext → Outcome Evaluated

/-- Runs a standard function; `invoke` runs the functions that it is given as arguments. -/
def StandardFunction.call (invoke : Invoke) (context : FunctionContext) :
    StandardFunction → Arguments → Outcome Evaluated
  | equal type => callEqual type
  | equalIgnoringCase => callEqualIgnoringCase
  | arithmetic op => op.call
  | logical op => op.call
  | compare type op => op.call type
  | timeInRange => callTimeInRange
  | shift s direction => s.call direction
  | bag type op => op.call type
  | set type op => op.call type
  | union type => callUnion type
  | higherOrder op => op.call invoke
  | concatenate => callConcatenate
  | normalizeSpace => callNormalizeSpace
  | normalizeToLowerCase => callNormalizeToLowerCase
  | occurs haystack position => callOccurs haystack position
  | substring type => callSubstring type
  | fromString type => callFromString type
  | toString type => callToString type
  | matchesPattern type => callMatchesPattern type
  | x500NameMatch => callX500NameMatch
  | rfc822NameMatch => callRfc822NameMatch
  | nodeCount => callNodeCount context

namespace Callee

/-- Runs a function with a bound on the functions run within functions. The numbers of registered
functions are their places in `custom`. -/
def callWithin (custom : List CustomFunction) (context : FunctionContext) :
    Nat → Callee → Arguments → Outcome Evaluated
  | _, registered number => fun args =>
    match custom[number]? with
    | some f => f args context
    | none => .error (.missingArgument args.length)
  | 0, standard f => f.call (fun _ args => .error (.missingArgument args.length)) context
  | depth + 1, standard f => f.call (fun g => callWithin custom context depth g.callee) context

/-- Functions are applied to plain values, and a higher-order function refuses plain values. So
one function within another is as deep as it gets. -/
def call (custom : List CustomFunction) (context : FunctionContext) (c : Callee) :
    Arguments → Outcome Evaluated :=
  c.callWithin custom context 1

end Callee

end PolicyDecision
