import PolicyDecision.Text.Intervals
import PolicyDecision.Text.WordCharacter

/-! Regular expressions: anchors and patterns. -/

namespace PolicyDecision

/-- The characters on both sides of a position in a text. -/
structure Place where
  before : Option Char
  after : Option Char
  deriving Repr, DecidableEq

/-- Conditions on a position. -/
inductive Anchor
  | textStart
  | textEnd
  | lineStart
  | lineEnd
  | wordBoundary
  | insideOrOutsideWord
  | wordStart
  | wordEnd
  | noWordBefore
  | noWordAfter
  deriving Repr, DecidableEq

def Anchor.holds (a : Anchor) (p : Place) : Bool :=
  let wordBefore := p.before.any Text.isWordCharacter
  let wordAfter := p.after.any Text.isWordCharacter
  match a with
  | textStart => p.before.isNone
  | textEnd => p.after.isNone
  | lineStart => p.before.all (· == '\n')
  | lineEnd => p.after.all (· == '\n')
  | wordBoundary => wordBefore != wordAfter
  | insideOrOutsideWord => wordBefore == wordAfter
  | wordStart => !wordBefore && wordAfter
  | wordEnd => wordBefore && !wordAfter
  | noWordBefore => !wordBefore
  | noWordAfter => !wordAfter

/-- How often something is repeated. Greed changes which match is preferred, not whether there is
one. -/
structure Bounds where
  least : Nat
  /-- Absent if there is no limit. -/
  most : Option Nat
  greedy : Bool := true
  deriving Repr, DecidableEq

inductive Pattern
  | literal (cs : List Char)
  | set (s : Text.Intervals)
  | anchor (a : Anchor)
  | repeated (p : Pattern) (bounds : Bounds)
  /-- A group that has a number. -/
  | captured (number : Nat) (p : Pattern)
  | seq (ps : List Pattern)
  | alt (ps : List Pattern)

namespace Pattern

/-- The pattern that matches nothing but the empty text. -/
def empty : Pattern := literal []

mutual

/-- Equality of patterns. -/
def same : Pattern → Pattern → Bool
  | literal cs, literal ds => cs == ds
  | set s, set t => s == t
  | anchor a, anchor b => a == b
  | repeated p b, repeated q c => b == c && same p q
  | captured m p, captured n q => m == n && same p q
  | seq ps, seq qs => sameList ps qs
  | alt ps, alt qs => sameList ps qs
  | _, _ => false

def sameList : List Pattern → List Pattern → Bool
  | [], [] => true
  | p :: ps, q :: qs => same p q && sameList ps qs
  | _, _ => false

end

mutual

/-- The number of parts. -/
def size : Pattern → Nat
  | literal _ | set _ | anchor _ => 1
  | repeated p _ | captured _ p => size p + 1
  | seq ps | alt ps => sizeList ps + 1

def sizeList : List Pattern → Nat
  | [] => 0
  | p :: ps => size p + sizeList ps

end

mutual

/-- Whether the pattern matches no text but the empty one. -/
def onlyEmpty : Pattern → Bool
  | literal cs => cs.isEmpty
  | set _ => false
  | anchor _ => true
  | repeated p _ | captured _ p => onlyEmpty p
  | seq ps | alt ps => onlyEmptyAll ps

def onlyEmptyAll : List Pattern → Bool
  | [] => true
  | p :: ps => onlyEmpty p && onlyEmptyAll ps

end

end Pattern

end PolicyDecision
