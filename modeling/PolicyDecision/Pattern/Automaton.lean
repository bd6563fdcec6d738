import PolicyDecision.Pattern.Syntax
import PolicyDecision.Text.ByteRanges
import Std.Data.HashMap

/-! The memory that the automaton of a pattern takes. The automaton reads bytes; it is built from
the pattern part by part, once for reading forward and once for reading backward, and a pattern is
refused if one of them would grow too large. -/

namespace PolicyDecision.Pattern

open Text

/-- What has been built. States are numbered in the order in which they are added. -/
structure Automaton where
  states : Nat := 0
  /-- The bytes taken by lists of transitions. -/
  lists : Nat := 0
  deriving Repr, DecidableEq

namespace Automaton

def stateBytes : Nat := 32

/-- An entry in the list of a state that chooses between bytes. -/
def transitionBytes : Nat := 8

/-- An entry in the list of a state that chooses without reading. -/
def choiceBytes : Nat := 4

/-- Ten mebibytes. -/
def limit : Nat := 10485760

def bytes (a : Automaton) : Nat := a.states * stateBytes + a.lists

/-- An automaton that is too large stays so, whatever is added. -/
def isTooLarge (a : Automaton) : Bool := decide (limit < a.bytes)

def addStates (n : Nat) (a : Automaton) : Automaton := { a with states := a.states + n }

def addTransitions (n : Nat) (a : Automaton) : Automaton :=
  { a with lists := a.lists + n * transitionBytes }

def addChoices (n : Nat) (a : Automaton) : Automaton :=
  { a with lists := a.lists + n * choiceBytes }

/-- Runs a building step a number of times, or until there is too much. -/
def repeatStep (step : Automaton → Automaton) : Nat → Automaton → Automaton
  | 0, a => a
  | n + 1, a => if a.isTooLarge then a else repeatStep step n (step a)

end Automaton

/-! ## Sets of characters

States that lead on alike are shared as far as they are remembered. The memory has a number of
slots, and a new entry takes the place of the old one in its slot. -/

/-- A hash of 64 bits. -/
def hashOf (values : List Nat) : UInt64 :=
  values.foldl (fun h v => (h ^^^ v.toUInt64) * 1099511628211) 14695981039346656037

/-- The slots that are taken, with the keys and the states that they hold. -/
abbrev Slots := Std.HashMap Nat (List Nat × Nat)

/-- What is being built together with the slots. -/
structure Sharing where
  automaton : Automaton
  slots : Slots := ∅

namespace Sharing

/-- The state under a key, from among `count` slots. It is built if it is not remembered. -/
def stateFor (count : Nat) (key : List Nat) (build : Automaton → Automaton) (s : Sharing) :
    Nat × Sharing :=
  let slot := (hashOf key).toNat % count
  let fresh : Nat × Sharing :=
    let number := s.automaton.states
    (number, ⟨build s.automaton, s.slots.insert slot (key, number)⟩)
  match s.slots[slot]? with
  | some (known, number) => if known = key then (number, s) else fresh
  | none => fresh

end Sharing

/-- The sequences that begin with the same range, without that range, for each run of them. -/
def groupByFirst : List (List ByteRange) → List (ByteRange × List (List ByteRange))
  | [] => []
  | [] :: rest => groupByFirst rest
  | (r :: rs) :: rest =>
    match groupByFirst rest with
    | (first, group) :: groups =>
      if first = r then (r, rs :: group) :: groups else (r, [rs]) :: (first, group) :: groups
    | [] => [(r, [rs])]

/-- Builds the state that reads one of some byte sequences and leads to `target`. The states after
it are built first. No sequence is longer than four. -/
def readForward (target : Nat) : Nat → List (List ByteRange) → Sharing → Nat × Sharing
  | 0, _, s => (target, s)
  | length + 1, sequences, s =>
    if sequences.all List.isEmpty then (target, s)
    else
      let (key, s) := (groupByFirst sequences).foldl
        (fun (key, s) ((low, high), rests) =>
          let (next, s) := readForward target length rests s
          (key ++ [low, high, next], s))
        ([], s)
      s.stateFor 10000 key fun a => (a.addStates 1).addTransitions (key.length / 3)

/-- Builds the states that read a byte sequence backward. The ranges come in their order in the
text, so that the last state built is the first one to read. -/
def readBackward (finish : Nat) (ranges : List ByteRange) (s : Sharing) : Sharing :=
  (ranges.foldl
    (fun (next, s) (low, high) => s.stateFor 1000 [next, low, high] (·.addStates 1))
    (finish, s)).2

/-- A set of ASCII characters needs no more than one state and an end. -/
def addSet (backward : Bool) (s : Intervals) (a : Automaton) : Automaton :=
  if s.all fun (_, high) => decide (high < 0x80) then
    (a.addStates 2).addTransitions s.length
  else if backward then
    let sequences := s.byteRanges
    let start : Sharing := { automaton := (a.addStates 2).addChoices sequences.length }
    (sequences.foldl (fun s ranges => readBackward (a.states + 1) ranges s) start).automaton
  else
    (readForward a.states 4 s.byteRanges { automaton := a.addStates 1 }).2.automaton

/-! ## Alternative literals

They are kept in a tree, so that common beginnings are read once. -/

/-- A node holds transitions to other nodes. They are in several groups if literals end here: those
that were added after the end of a literal are in a group of their own. The first group is the one
that still grows. -/
inductive LiteralTree
  | node (groups : List (List (Nat × LiteralTree)))

namespace LiteralTree

def leaf : LiteralTree := node [[]]

/-- A literal ends here. At a leaf where one has ended already, nothing changes. -/
def close : LiteralTree → LiteralTree
  | node [[], []] => node [[], []]
  | node groups => node ([] :: groups)

/-- Adds a literal. -/
def insert : List Nat → LiteralTree → LiteralTree
  | [], t => t.close
  | b :: bs, node [] => node [[(b, insert bs leaf)]]
  | b :: bs, node (group :: groups) =>
    match group.lookup b with
    | none => node ((group ++ [(b, insert bs leaf)]) :: groups)
    | some t => node (group.map (fun (c, u) => (c, if c = b then insert bs t else u)) :: groups)

mutual

/-- Builds the states of a node, unless it is a leaf: one for each group that is not empty, and one
that chooses between the groups and the ends between them. -/
def add : LiteralTree → Automaton → Automaton
  | node groups => fun a =>
    if groups.all List.isEmpty then a
    else
      let filled := groups.countP fun group => !group.isEmpty
      ((addGroups groups a).addStates 1).addChoices (filled + groups.length - 1)

def addGroups : List (List (Nat × LiteralTree)) → Automaton → Automaton
  | [] => fun a => a
  | group :: groups => fun a =>
    let a := addGroups groups (addGroup group a)
    match group.length with
    | 0 => a
    | 1 => a.addStates 1
    | n => (a.addStates 1).addTransitions n

def addGroup : List (Nat × LiteralTree) → Automaton → Automaton
  | [] => fun a => a
  | (_, t) :: rest => fun a => addGroup rest (add t a)

end

end LiteralTree

/-! ## Patterns -/

/-- The bytes of a literal. -/
def literalBytes (cs : List Char) : List Nat :=
  cs.flatMap fun c => (String.utf8EncodeChar c).map UInt8.toNat

/-- The bytes of alternatives that are all literals. -/
def literals? (ps : List Pattern) : Option (List (List Nat)) :=
  ps.mapM fun
    | literal [] => none
    | literal cs => some (literalBytes cs)
    | _ => none

mutual

/-- The length of the shortest text that the pattern matches; nothing if a part of it matches no
text at all. -/
def shortest? : Pattern → Option Nat
  | literal cs => some cs.length
  | set s => if s.isEmpty then none else some 1
  | anchor _ => some 0
  | repeated p b => (shortest? p).map (b.least * ·)
  | captured _ p => shortest? p
  | seq ps => (shortestAll? ps).map List.sum
  | alt ps => (shortestAll? ps).map fun lengths => lengths.min?.getD 0

def shortestAll? : List Pattern → Option (List Nat)
  | [] => some []
  | p :: ps => do return (← shortest? p) :: (← shortestAll? ps)

end

mutual

/-- Whether every match begins where the text begins, as far as anchors show it. -/
def startsAtStart : Pattern → Bool
  | literal _ | set _ => false
  | anchor a => a == .textStart
  | repeated p b => decide (0 < b.least) && startsAtStart p
  | captured _ p => startsAtStart p
  | seq ps => someStartsAtStart ps
  | alt ps => allStartAtStart ps

/-- The parts of a sequence count up to the first that can match a character. -/
def someStartsAtStart : List Pattern → Bool
  | [] => false
  | p :: ps => startsAtStart p || (onlyEmpty p && someStartsAtStart ps)

def allStartAtStart : List Pattern → Bool
  | [] => true
  | p :: ps => startsAtStart p && allStartAtStart ps

end

mutual

/-- Whether every match ends where the text ends, as far as anchors show it. -/
def endsAtEnd : Pattern → Bool
  | literal _ | set _ => false
  | anchor a => a == .textEnd
  | repeated p b => decide (0 < b.least) && endsAtEnd p
  | captured _ p => endsAtEnd p
  | seq ps => someEndsAtEnd ps
  | alt ps => allEndAtEnd ps

def someEndsAtEnd : List Pattern → Bool
  | [] => false
  | p :: ps => someEndsAtEnd ps || (onlyEmptyAll ps && endsAtEnd p)

def allEndAtEnd : List Pattern → Bool
  | [] => true
  | p :: ps => endsAtEnd p && allEndAtEnd ps

end

mutual

/-- Whether the last state of a part chooses without reading. What follows is then one more choice
of that state. -/
def endsInChoice (backward : Bool) : Pattern → Bool
  | literal _ | set _ | anchor _ | alt _ => false
  | captured _ p => backward && endsInChoice backward p
  | seq ps => if backward then firstEndsInChoice backward ps else lastEndsInChoice backward ps
  | repeated p b =>
    match b.most with
    | none => decide (0 < b.least) || decide (0 < (shortest? p).getD 0)
    | some most => decide (most = b.least) && endsInChoice backward p

def firstEndsInChoice (backward : Bool) : List Pattern → Bool
  | [] => false
  | p :: _ => endsInChoice backward p

def lastEndsInChoice (backward : Bool) : List Pattern → Bool
  | [] => false
  | [p] => endsInChoice backward p
  | _ :: ps => lastEndsInChoice backward ps

end

/-- Builds a repetition from a step that builds one copy of the part. `ending` is 1 if a copy ends
in a choice, and otherwise 0; `canBeEmpty` tells whether a copy may read nothing. -/
def addRepetition (step : Automaton → Automaton) (ending : Nat) (canBeEmpty : Bool) (b : Bounds)
    (a : Automaton) : Automaton :=
  let copies (n : Nat) (a : Automaton) : Automaton :=
    if n = 0 then a.addStates 1
    else Automaton.repeatStep (fun a => (step a).addChoices ending) (n - 1) (step a)
  match b.least, b.most with
  | 0, some 1 => ((step (a.addStates 1)).addStates 1).addChoices (2 + ending)
  | 0, none =>
    if canBeEmpty then ((step a).addStates 3).addChoices (4 + ending)
    else (step (a.addStates 1)).addChoices (1 + ending)
  | 1, none => ((step a).addStates 1).addChoices (1 + ending)
  | n + 2, none => ((step (copies (n + 1) a)).addStates 1).addChoices (1 + 2 * ending)
  | least, some most =>
    let fixed := copies least a
    if most ≤ least then fixed
    else
      let started := (fixed.addStates 1).addChoices (if least = 0 then 0 else ending)
      Automaton.repeatStep (fun a => (step (a.addStates 1)).addChoices (2 + ending))
        (most - least) started

mutual

/-- Builds the states of a pattern. -/
def add (backward : Bool) : Pattern → Automaton → Automaton
  | literal cs => fun a => a.addStates (max 1 (literalBytes cs).length)
  | set s => addSet backward s
  | anchor _ => fun a => a.addStates 1
  | captured _ p => fun a =>
    if backward then add backward p a
    else ((add backward p (a.addStates 1)).addStates 1).addChoices
      (if endsInChoice backward p then 1 else 0)
  | repeated p b =>
    addRepetition (add backward p) (if endsInChoice backward p then 1 else 0)
      ((shortest? p).getD 0 == 0) b
  | seq ps => fun a =>
    if backward then
      (addLast backward ps a).addChoices (ps.tail.countP (endsInChoice backward))
    else (addFirst backward ps a).addChoices (ps.dropLast.countP (endsInChoice backward))
  | alt ps => fun a =>
    match literals? ps with
    | some literals =>
      let inOrder := if backward then literals.map List.reverse else literals
      (inOrder.foldl (fun t bs => t.insert bs) LiteralTree.leaf).add (a.addStates 1)
    | none =>
      (addFirst backward ps (a.addStates 2)).addChoices
        (ps.length + ps.countP (endsInChoice backward))

/-- Builds the parts, the first one first. -/
def addFirst (backward : Bool) : List Pattern → Automaton → Automaton
  | [] => fun a => a
  | p :: ps => fun a => addFirst backward ps (add backward p a)

/-- Builds the parts, the last one first. -/
def addLast (backward : Bool) : List Pattern → Automaton → Automaton
  | [] => fun a => a
  | p :: ps => fun a => add backward p (addLast backward ps a)

end

/-- Builds an automaton that may begin anywhere, unless it is known where a match begins. -/
def start (anchored : Bool) : Automaton :=
  if anchored then { states := 1 }
  else (({ states := 3 } : Automaton).addTransitions 1).addChoices 2

/-- The whole match is a group. -/
def forwardAutomaton (p : Pattern) : Automaton :=
  (add false (captured 0 p) (start p.startsAtStart)).addStates 1

/-- Backward there are no groups. -/
def backwardAutomaton (p : Pattern) : Automaton :=
  ((add true p (start p.endsAtEnd)).addStates 1).addChoices (if endsInChoice true p then 1 else 0)

def isTooLarge (p : Pattern) : Bool :=
  p.forwardAutomaton.isTooLarge || p.backwardAutomaton.isTooLarge

end PolicyDecision.Pattern
