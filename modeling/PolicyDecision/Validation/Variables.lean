import PolicyDecision.Error
import PolicyDecision.Policy.Basic

/-! Variables whose definitions lead back to themselves. -/

namespace PolicyDecision.Validation

/-- The variables that a definition mentions. An undefined variable mentions none. -/
def mentioned (definitions : List VariableDefinition) (id : String) : List String :=
  ((definitions.find? (·.id == id)).map (·.expression.mentions)).getD []

def isDefined (definitions : List VariableDefinition) (id : String) : Bool :=
  definitions.any (·.id == id)

/-- The end of a path from `id` on, and `id` once more. -/
def cycleAt (path : List String) (id : String) : List String :=
  path.dropWhile (· != id) ++ [id]

/-- Visits a variable and all that it leads to. `path` leads to the variable, `finished` holds the
variables known to lead to no cycle, and grows. -/
def visit (definitions : List VariableDefinition) :
    Nat → (path finished : List String) → String → Except (List String) (List String)
  | 0, _, finished, _ => .ok finished
  | fuel + 1, path, finished, id => do
    let path := path ++ [id]
    let finished ← (mentioned definitions id).foldlM
      (fun finished next =>
        if path.contains next then .error (cycleAt path next)
        else if finished.contains next || !isDefined definitions next then .ok finished
        else visit definitions fuel path finished next)
      finished
    return finished ++ [id]

/-- A path repeats no variable, so that it is no longer than there are definitions. -/
def findCycle? (definitions : List VariableDefinition) : Option (List String) :=
  let visited := definitions.foldlM
    (fun finished d =>
      if finished.contains d.id then .ok finished
      else visit definitions definitions.length [] finished d.id)
    []
  match visited with
  | .ok _ => none
  | .error cycle => some cycle

end PolicyDecision.Validation
