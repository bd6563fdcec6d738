import PolicyDecision.Pattern.Syntax

/-! Searching a text for a pattern. All positions are followed at once: a set of positions is a
list of marks, one for each position of the text, and a pattern maps the positions where it begins
to those where it can end. -/

namespace PolicyDecision.Pattern

abbrev Marks := List Bool

def Marks.join (m n : Marks) : Marks := List.zipWith (· || ·) m n

def placesAfter (before : Option Char) : List Char → List Place
  | [] => [⟨before, none⟩]
  | c :: cs => ⟨before, some c⟩ :: placesAfter (some c) cs

/-- Every position of a text. There is one more of them than there are characters. -/
def places (text : List Char) : List Place := placesAfter none text

/-- Applies `step` a number of times, or until nothing changes any more. -/
def iterate (step : Marks → Marks) : Nat → Marks → Marks
  | 0, m => m
  | n + 1, m =>
    let next := step m
    if next = m then m else iterate step n next

/-- The positions reached by at most so many steps. It stops when a step adds none. -/
def closure (step : Marks → Marks) (n : Nat) (m : Marks) : Marks :=
  iterate (fun m => m.join (step m)) n m

/-- Goes on by one character if it is admitted. -/
def advance (text : List Char) (admitted : Char → Bool) (m : Marks) : Marks :=
  false :: List.zipWith (fun marked c => marked && admitted c) m text

mutual

/-- The positions where the pattern can end if it begins at a marked one. -/
def reach (text : List Char) : Pattern → Marks → Marks
  | literal cs => fun m => cs.foldl (fun m c => advance text (· == c) m) m
  | set s => advance text s.contains
  | anchor a => fun m => List.zipWith (fun marked p => marked && a.holds p) m (places text)
  | repeated p b => fun m =>
    let further := match b.most with
      | some most => most - b.least
      | none => text.length + 1
    closure (reach text p) further (iterate (reach text p) b.least m)
  | captured _ p => reach text p
  | seq ps => reachSeq text ps
  | alt ps => reachAlt text ps

def reachSeq (text : List Char) : List Pattern → Marks → Marks
  | [] => fun m => m
  | p :: ps => fun m => reachSeq text ps (reach text p m)

def reachAlt (text : List Char) : List Pattern → Marks → Marks
  | [] => fun m => m.map fun _ => false
  | p :: ps => fun m => (reach text p m).join (reachAlt text ps m)

end

/-- Whether the pattern matches somewhere in the text. -/
def foundIn (p : Pattern) (text : String) : Bool :=
  let cs := text.toList
  (reach cs p (List.replicate (cs.length + 1) true)).any id

end PolicyDecision.Pattern
