import PolicyDecision.Bag
import PolicyDecision.Error
import PolicyDecision.Function.Standard

/-! What expressions evaluate to: values, bags and functions. -/

namespace PolicyDecision

/-- What a call runs: a standard function, or the registered function with the given number. -/
inductive Callee
  | standard (f : StandardFunction)
  | registered (number : Nat)
  deriving Repr, DecidableEq

/-- A function together with the URI under which it was found. -/
structure FunctionRef where
  uri : String
  callee : Callee
  deriving Repr, DecidableEq

inductive Evaluated
  | value (v : Value)
  | bag (b : Bag)
  | function (f : FunctionRef)

namespace Evaluated

def kind : Evaluated → Kind
  | value _ => .value
  | bag _ => .bag
  | function _ => .function

def found : Evaluated → Found
  | value v => .value v.type
  | bag _ => .bag
  | function _ => .function

/-- Functions are the same when their URIs are, bags when their types and members are. -/
def same : Evaluated → Evaluated → Bool
  | value a, value b => a.same b
  | bag a, bag b =>
    a.type == b.type && a.values.length == b.values.length &&
      (a.values.zip b.values).all fun (v, w) => v.same w
  | function f, function g => f.uri == g.uri
  | _, _ => false

def boolean (b : Bool) : Evaluated := value (.boolean b)

def integer (n : Int) : Evaluated := value (.integer n)

def string (s : String) : Evaluated := value (.string s)

end Evaluated

end PolicyDecision
