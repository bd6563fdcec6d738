import PolicyDecision.Function.Argument

/-! Bags and sets of values of one type. -/

namespace PolicyDecision

namespace BagOperation

def all : List BagOperation := [oneAndOnly, size, isIn, make]

def suffix : BagOperation → String
  | oneAndOnly => "one-and-only"
  | size => "bag-size"
  | isIn => "is-in"
  | make => "bag"

def call (op : BagOperation) (type : DataType) (args : Arguments) : Outcome Evaluated :=
  match op with
  | oneAndOnly => do
    args.expectCount 1
    match (← args.bagAt type 0).values with
    | [v] => return .value v
    | vs => throw (.notOneValue type vs.length)
  | size => do
    args.expectCount 1
    return .integer (← args.bagAt type 0).size
  | isIn => do
    args.expectCount 2
    let v ← args.typedAt type 0
    return .boolean ((← args.bagAt type 1).contains v)
  | make => return .bag ⟨type, ← (args.indicesFrom 0).mapM (args.typedAt type)⟩

end BagOperation

namespace SetOperation

def all : List SetOperation := [intersection, atLeastOneMemberOf, subset, setEquals]

def suffix : SetOperation → String
  | intersection => "intersection"
  | atLeastOneMemberOf => "at-least-one-member-of"
  | subset => "subset"
  | setEquals => "set-equals"

def call (op : SetOperation) (type : DataType) (args : Arguments) : Outcome Evaluated := do
  args.expectCount 2
  let a ← args.bagAt type 0
  let b ← args.bagAt type 1
  return match op with
    | intersection => .bag ⟨type, a.distinct.filter b.contains⟩
    | atLeastOneMemberOf => .boolean (a.values.any b.contains)
    | subset => .boolean (a.isSubset b)
    | setEquals => .boolean (a.isSubset b && b.isSubset a)

end SetOperation

/-- The distinct values of two or more bags. -/
def StandardFunction.callUnion (type : DataType) (args : Arguments) : Outcome Evaluated := do
  args.expectAtLeast 2
  let bags ← (args.indicesFrom 0).mapM (args.bagAt type)
  return .bag ⟨type, (Bag.mk type (bags.flatMap (·.values))).distinct⟩

end PolicyDecision
