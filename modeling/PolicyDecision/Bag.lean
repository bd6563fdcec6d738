import PolicyDecision.Value

/-! Bags: values of one type, in the order in which they were found. -/

namespace PolicyDecision

structure Bag where
  type : DataType
  values : List Value

namespace Bag

def size (bag : Bag) : Nat := bag.values.length

def isEmpty (bag : Bag) : Bool := bag.values.isEmpty

/-- Membership up to the equality of the type. -/
def contains (bag : Bag) (v : Value) : Bool := bag.values.any (·.same v)

/-- Keeps a value unless an equal one was kept before it. -/
def distinctAfter (kept : List Value) : List Value → List Value
  | [] => []
  | v :: vs =>
    if kept.any (·.same v) then distinctAfter kept vs else v :: distinctAfter (kept ++ [v]) vs

/-- The values without repetitions, first occurrences first. -/
def distinct (bag : Bag) : List Value := distinctAfter [] bag.values

def isSubset (a b : Bag) : Bool := a.values.all b.contains

end Bag

end PolicyDecision
