import PolicyDecision.Function.Evaluated

/-! Checks of the arguments of a function. -/

namespace PolicyDecision

abbrev Arguments := List Evaluated

/-- The outcome of a function. -/
abbrev Outcome := Except EvaluationError

namespace Arguments

def expectCount (args : Arguments) (n : Nat) : Outcome Unit :=
  if args.length = n then .ok () else .error (.argumentCount n args.length)

def expectAtLeast (args : Arguments) (n : Nat) : Outcome Unit :=
  if n ≤ args.length then .ok () else .error (.tooFewArguments n args.length)

/-- The argument at an index, if `select` accepts it. -/
def pick (args : Arguments) (i : Nat) (expected : Expected) (select : Evaluated → Option α) :
    Outcome α :=
  match args[i]? with
  | none => .error (.missingArgument i)
  | some arg =>
    match select arg with
    | some a => .ok a
    | none => .error (.argument i expected arg.found)

def valueAt (args : Arguments) (i : Nat) : Outcome Value :=
  args.pick i .anyValue fun
    | .value v => some v
    | _ => none

def typedAt (args : Arguments) (type : DataType) (i : Nat) : Outcome Value := do
  let v ← args.valueAt i
  if v.type = type then return v else throw (.argument i (.value type) (.value v.type))

def booleanAt (args : Arguments) (i : Nat) : Outcome Bool :=
  args.pick i (.value .boolean) fun
    | .value (.boolean b) => some b
    | _ => none

def integerAt (args : Arguments) (i : Nat) : Outcome Int :=
  args.pick i (.value .integer) fun
    | .value (.integer n) => some n
    | _ => none

def doubleAt (args : Arguments) (i : Nat) : Outcome Float :=
  args.pick i (.value .double) fun
    | .value (.double d) => some d
    | _ => none

def stringAt (args : Arguments) (i : Nat) : Outcome String :=
  args.pick i (.value .string) fun
    | .value (.string s) => some s
    | _ => none

def bagAt (args : Arguments) (type : DataType) (i : Nat) : Outcome Bag :=
  args.pick i (.bag type) fun
    | .bag b => if b.type = type then some b else none
    | _ => none

def anyBagAt (args : Arguments) (i : Nat) : Outcome Bag :=
  args.pick i .anyBag fun
    | .bag b => some b
    | _ => none

def functionAt (args : Arguments) (i : Nat) : Outcome FunctionRef :=
  args.pick i .function fun
    | .function f => some f
    | _ => none

/-- The indices of the arguments from `start` on. -/
def indicesFrom (args : Arguments) (start : Nat) : List Nat :=
  List.range' start (args.length - start)

end Arguments

end PolicyDecision
