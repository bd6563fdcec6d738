import PolicyDecision.Pattern.Syntax

/-! Patterns built in a simplified form that matches the same texts. -/

namespace PolicyDecision.Pattern

open Text

/-- A set of one character is a literal. -/
def ofSet : Intervals → Pattern
  | [(low, high)] => if low = high then literal [Char.ofNat low] else set [(low, high)]
  | s => set s

/-- Joins literals that stand side by side, and leaves empty ones out. -/
def joinLiterals : List Pattern → List Pattern
  | [] => []
  | p :: ps =>
    match p, joinLiterals ps with
    | literal [], rest => rest
    | literal cs, literal ds :: rest => literal (cs ++ ds) :: rest
    | p, rest => p :: rest

/-- The parts of a sequence; any other pattern is its own part. -/
def seqParts : Pattern → List Pattern
  | seq ps => ps
  | p => [p]

/-- One pattern after the other. -/
def ofSeq (ps : List Pattern) : Pattern :=
  match joinLiterals (ps.flatMap seqParts) with
  | [] => empty
  | [p] => p
  | ps => seq ps

def altParts : Pattern → List Pattern
  | alt ps => ps
  | p => [p]

/-- The set that consists of the only character of a literal. -/
def singleton? : Pattern → Option Intervals
  | literal [c] => some (.char c)
  | _ => none

def set? : Pattern → Option Intervals
  | set s => some s
  | _ => none

/-- The length of the longest common beginning. -/
def commonLength : List Pattern → List Pattern → Nat
  | p :: ps, q :: qs => if p.same q then commonLength ps qs + 1 else 0
  | _, _ => 0

/-- The parts of sequences of two or more; nothing if another pattern is among them. -/
def sequences? (ps : List Pattern) : Option (List (List Pattern)) :=
  ps.mapM fun
    | seq qs => some qs
    | _ => none

/-- The beginning that all sequences have in common. -/
def commonStart : List (List Pattern) → List Pattern
  | [] => []
  | ps :: rest => ps.take (rest.foldl (fun n qs => min n (commonLength ps qs)) ps.length)

/-- Alternatives that are all characters, or all sets, make one set. What all alternatives begin
with is taken out, again and again up to a number of times. -/
def altWithin (times : Nat) (ps : List Pattern) : Pattern :=
  match ps.flatMap altParts with
  | [] => set []
  | [p] => p
  | ps =>
    match ps.mapM singleton?, ps.mapM set?, times, sequences? ps with
    | some sets, _, _, _ => ofSet (.unionOf sets)
    | none, some sets, _, _ => ofSet (.unionOf sets)
    | none, none, times + 1, some sequences =>
      let start := commonStart sequences
      if start.isEmpty then alt ps
      else
        let rests := sequences.map fun qs => ofSeq (qs.drop start.length)
        ofSeq (start ++ [altWithin times rests])
    | _, _, _, _ => alt ps

/-- One pattern or another. Whenever a beginning is taken out there are fewer parts. -/
def ofAlt : List Pattern → Pattern
  | [p] => p
  | ps => altWithin (sizeList ps) ps

/-- A repetition. To repeat a pattern that matches only the empty text more than once makes no
difference. -/
def ofRepetition (p : Pattern) (b : Bounds) : Pattern :=
  let b :=
    if p.onlyEmpty then { b with least := min b.least 1, most := some (min (b.most.getD 1) 1) }
    else b
  if b.most = some 0 then empty
  else if b.least = 1 ∧ b.most = some 1 then p
  else repeated p b

end PolicyDecision.Pattern
