/-! Sets of characters given as closed intervals of code points. -/

namespace PolicyDecision.Text

abbrev Intervals := List (Nat × Nat)

namespace Intervals

def containsPoint (s : Intervals) (n : Nat) : Bool :=
  s.any fun (low, high) => decide (low ≤ n) && decide (n ≤ high)

/-- Whether the code point of `c` lies in one of the intervals. -/
def contains (s : Intervals) (c : Char) : Bool := s.containsPoint c.toNat

/-! Of the following operations each takes and gives intervals that are ordered, that neither
overlap nor touch, and that hold no surrogates. -/

/-- All characters, without the surrogates between them. -/
def everything : Intervals := [(0, 0xD7FF), (0xE000, 0x10FFFF)]

/-- The characters of an interval of code points. -/
def ofRange (low high : Nat) : Intervals :=
  (everything.map fun (a, b) => (max low a, min high b)).filter fun (a, b) => decide (a ≤ b)

/-- Joins the intervals that overlap or touch, beginning with one from `low` to `high`. -/
def joinFrom (low high : Nat) : Intervals → Intervals
  | [] => [(low, high)]
  | (a, b) :: rest =>
    if a ≤ high + 1 then joinFrom low (max high b) rest else (low, high) :: joinFrom a b rest

/-- Joins intervals that are ordered by their lower ends. -/
def joined : Intervals → Intervals
  | [] => []
  | (low, high) :: rest => joinFrom low high rest

def union (s t : Intervals) : Intervals :=
  joined (List.merge s t fun i j => decide (i.1 ≤ j.1))

def unionOf (sets : List Intervals) : Intervals := sets.foldr union []

/-- The gaps between the intervals, from a code point on. -/
def gapsFrom (start : Nat) : Intervals → Intervals
  | [] => ofRange start 0x10FFFF
  | (low, high) :: rest =>
    (if start < low then ofRange start (low - 1) else []) ++ gapsFrom (high + 1) rest

def complement (s : Intervals) : Intervals := gapsFrom 0 s

def inter (s t : Intervals) : Intervals := complement (union (complement s) (complement t))

def diff (s t : Intervals) : Intervals := complement (union (complement s) t)

def symmDiff (s t : Intervals) : Intervals := union (diff s t) (diff t s)

def char (c : Char) : Intervals := [(c.toNat, c.toNat)]

def range (low high : Char) : Intervals := ofRange low.toNat high.toNat

/-- The set of the code points of a list. -/
def ofPoints (points : List Nat) : Intervals :=
  joined ((points.mergeSort fun m n => decide (m ≤ n)).map fun n => (n, n))

end Intervals

end PolicyDecision.Text
