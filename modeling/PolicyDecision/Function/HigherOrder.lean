import PolicyDecision.Function.Cursor

/-! Functions that apply another function to the members of bags. -/

namespace PolicyDecision

/-- How a function that was given as an argument is run. -/
abbrev Invoke := FunctionRef → Arguments → Outcome Evaluated

namespace HigherOrder

/-- Runs a function whose result must be a boolean. -/
def test (invoke : Invoke) (f : FunctionRef) (values : List Value) : Outcome Bool := do
  match ← invoke f (values.map .value) with
  | .value (.boolean b) => return b
  | other => throw (.predicateNotBoolean f.uri other.kind)

/-- Runs a function whose result must be a value. -/
def apply (invoke : Invoke) (f : FunctionRef) (values : List Value) : Outcome Value := do
  match ← invoke f (values.map .value) with
  | .value v => return v
  | other => throw (.mappedToNoValue f.uri other.kind)

inductive Quantifier
  | all
  | any
  deriving Repr, DecidableEq

/-- Stops at the first value that settles the quantifier, or that cannot be tested. -/
def Quantifier.along (q : Quantifier) (holds : Value → Outcome Bool) : List Value → Outcome Bool
  | [] => .ok (q == .all)
  | v :: vs => do
    match q, ← holds v with
    | .all, false => return false
    | .any, true => return true
    | _, _ => q.along holds vs

/-- A function, values that stay the same, and at last a bag. -/
structure Application where
  function : FunctionRef
  fixed : List Value
  bag : Bag

def application (args : Arguments) : Outcome Application := do
  args.expectAtLeast 2
  let function ← args.functionAt 0
  let last := args.length - 1
  let fixed ← (List.range' 1 (last - 1)).mapM args.valueAt
  return ⟨function, fixed, ← args.anyBagAt last⟩

def quantify (invoke : Invoke) (q : Quantifier) (args : Arguments) : Outcome Bool := do
  let app ← application args
  q.along (fun v => test invoke app.function (app.fixed ++ [v])) app.bag.values

/-- The results have the type of the first one. Without any, the bag keeps its type. -/
def mapBag (invoke : Invoke) (args : Arguments) : Outcome Bag := do
  let app ← application args
  let results ← app.bag.values.mapM fun v => apply invoke app.function (app.fixed ++ [v])
  return ⟨(results.head?.map Value.type).getD app.bag.type, results⟩

/-- A value is a column of its own. -/
def column : Evaluated → Outcome (List Value)
  | .value v => .ok [v]
  | .bag b => .ok b.values
  | .function _ => .error .functionAmongArguments

def quantifyProduct (invoke : Invoke) (args : Arguments) : Outcome Bool := do
  args.expectAtLeast 2
  let f ← args.functionAt 0
  let columns ← (args.drop 1).mapM column
  if columns.any (·.isEmpty) then return false
  (Cursor.first columns).search (test invoke f)

/-- A quantifier along the first bag and, for each of its members, one along the second bag. -/
def quantifyTwice (invoke : Invoke) (outer inner : Quantifier) (args : Arguments) :
    Outcome Bool := do
  args.expectCount 3
  let f ← args.functionAt 0
  let first ← args.anyBagAt 1
  let second ← args.anyBagAt 2
  outer.along (fun v => inner.along (fun w => test invoke f [v, w]) second.values) first.values

def call (invoke : Invoke) (op : HigherOrder) (args : Arguments) : Outcome Evaluated :=
  match op with
  | anyOf => .boolean <$> quantify invoke .any args
  | allOf => .boolean <$> quantify invoke .all args
  | anyOfAny => .boolean <$> quantifyProduct invoke args
  | map => .bag <$> mapBag invoke args
  | allOfAny => .boolean <$> quantifyTwice invoke .all .any args
  | anyOfAll => .boolean <$> quantifyTwice invoke .any .all args
  | allOfAll => .boolean <$> quantifyTwice invoke .all .all args

end HigherOrder

end PolicyDecision
