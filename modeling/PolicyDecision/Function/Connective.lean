import PolicyDecision.Function.Argument

/-! The logical functions. They stop as soon as the result is certain, so that later arguments are
not checked. -/

namespace PolicyDecision

namespace Connective

/-- The result is `decisive` if some argument is, and otherwise its opposite. -/
def seek (args : Arguments) (decisive : Bool) : List Nat → Outcome Bool
  | [] => .ok !decisive
  | i :: is => do
    if (← args.booleanAt i) = decisive then return decisive
    seek args decisive is

/-- Whether the required number of arguments is reached. -/
def seekCount (args : Arguments) (required : Nat) (found : Nat) : List Nat → Outcome Bool
  | [] => .ok (found == required)
  | i :: is =>
    if found = required then .ok true
    else do
      let b ← args.booleanAt i
      seekCount args required (if b then found + 1 else found) is

def atLeast (args : Arguments) : Outcome Bool := do
  args.expectAtLeast 1
  let n ← args.integerAt 0
  let available := args.length - 1
  if n < 0 then throw (.negativeCount n)
  if available < n.toNat then throw (.countTooLarge n.toNat available)
  seekCount args n.toNat 0 (args.indicesFrom 1)

def call (op : Connective) (args : Arguments) : Outcome Evaluated :=
  .boolean <$> match op with
    | or => seek args true (args.indicesFrom 0)
    | and => seek args false (args.indicesFrom 0)
    | not => do
      args.expectCount 1
      return !(← args.booleanAt 0)
    | nOf => atLeast args

end Connective

end PolicyDecision
