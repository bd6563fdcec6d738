import PolicyDecision.Function.Argument
import PolicyDecision.Request.Basic
import PolicyDecision.Response

/-! Requests for several decisions: their individual requests, and the results taken together. -/

namespace PolicyDecision

namespace Request

/-- A request for one decision about the given blocks. -/
def individual (r : Request) (blocks : List Block) : Request :=
  { r with blocks, combinedDecision := false, references := [] }

/-- The first block with an id. -/
def blockById (r : Request) (id : String) : Outcome Block :=
  match r.blocks.find? (·.id == some id) with
  | some b => .ok b
  | none => .error (.unknownBlock id)

/-- Adds a block to the group of its category, or in a new group at the end. -/
def addToGroups (b : Block) : List (List Block) → List (List Block)
  | [] => [[b]]
  | group :: groups =>
    if group.any (·.category == b.category) then (group ++ [b]) :: groups
    else group :: addToGroups b groups

/-- The blocks by categories, in the order in which the categories appear. -/
def groups (r : Request) : List (List Block) :=
  r.blocks.foldl (fun groups b => addToGroups b groups) []

/-- All ways to choose one block from each group. Every choice made from the groups so far goes on
with each block of the next group in turn. -/
def choices (groups : List (List Block)) : List (List Block) :=
  groups.foldl (fun chosen group => chosen.flatMap fun blocks => group.map (blocks ++ [·])) [[]]

/-- The individual requests in the order of their evaluation. Before version 3.0 a request is never
split. References name the blocks of each individual request; without them each choice of one block
from every category is one. -/
def individuals (r : Request) : List (Outcome Request) :=
  if !r.version.isExtended then [.ok r]
  else if !r.references.isEmpty then
    r.references.map fun ids => (ids.mapM r.blockById).map r.individual
  else if r.groups.all (·.length ≤ 1) then [.ok r]
  else (choices r.groups).map fun blocks => .ok (r.individual blocks)

/-- The attributes that are to be returned, in their blocks. -/
def returned (r : Request) : List Block :=
  (r.blocks.map fun b => { b with attributes := b.attributes.filter (·.includeInResult) }).filter
    (!·.attributes.isEmpty)

end Request

namespace EvaluationResult

/-- Adds the members of the second list that are not there yet. -/
def union [BEq α] (as bs : List α) : List α :=
  bs.foldl (fun as b => if as.contains b then as else as ++ [b]) as

def isPlain (r : EvaluationResult) : Bool := r.obligations.isEmpty && r.advice.isEmpty

/-- Results are combined if they agree in their decision and carry no obligations and no
advice. -/
def combine (results : List EvaluationResult) : EvaluationResult :=
  match results with
  | [] => indeterminate .nothingToCombine
  | first :: _ =>
    if results.all fun r => r.decision == first.decision && r.isPlain then
      { decision := first.decision
        status := if first.decision.isIndeterminate then first.status else .ok
        applicablePolicies := union [] (results.flatMap (·.applicablePolicies)) }
    else indeterminate .notCombinable

end EvaluationResult

end PolicyDecision
