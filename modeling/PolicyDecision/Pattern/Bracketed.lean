import PolicyDecision.Pattern.Escape
import PolicyDecision.Text.Case

/-! Sets of characters in brackets, with the switches that hold there and the depth to which brackets
are nested. -/

namespace PolicyDecision.Pattern

/-! How deep the parts of a pattern are nested as it is written. A literal, an anchor or an escape
has no parts; a group, a repetition or a pair of brackets lies around its parts, and so does a row
of two or more. -/

/-- A pattern whose parts are nested deeper cannot be read. -/
def greatestDepth : Nat := 250

/-- The depth of a row of parts that have these depths. A part on its own is no row. -/
def depthOfRow : List Nat → Nat
  | [] => 0
  | [d] => d
  | ds => ds.foldl max 0 + 1

/-- What was read, and how deep its parts are nested. -/
structure Nested (α : Type) where
  content : α
  depth : Nat := 0
  deriving Repr, DecidableEq

namespace Nested

variable {α β : Type}

/-- What becomes of it when something is written around it. -/
def within (f : α → β) (n : Nested α) : Nested β := ⟨f n.content, n.depth + 1⟩

def row (f : List α → β) (parts : List (Nested α)) : Nested β :=
  ⟨f (parts.map content), depthOfRow (parts.map depth)⟩

end Nested

/-! Switches inside a pattern. -/

/-- Switches that a group can set for what follows in it. -/
structure Flags where
  ignoreCase : Bool := false
  multiLine : Bool := false
  dotMatchesAll : Bool := false
  /-- Repetitions prefer to be short unless a question mark follows. -/
  swapGreed : Bool := false
  deriving Repr, DecidableEq

namespace Flags

/-- The set with the case variants of its characters, if case is ignored. -/
def withCase (flags : Flags) (s : Text.Intervals) : Text.Intervals :=
  if flags.ignoreCase then s.folded else s

def set? (flags : Flags) (on : Bool) (c : Char) : Option Flags :=
  match c with
  | 'i' => some { flags with ignoreCase := on }
  | 'm' => some { flags with multiLine := on }
  | 's' => some { flags with dotMatchesAll := on }
  | 'U' => some { flags with swapGreed := on }
  | 'u' => if on then some flags else none
  | _ => none

/-- Reads switches up to a colon or the closing bracket, and gives that character too. No switch
and no hyphen may be repeated, and a hyphen is followed by a switch. -/
def read (flags : Flags) (seen : List Char) (on : Bool) :
    List Char → Option (Flags × Char × List Char)
  | [] => none
  | c :: cs =>
    if c = ':' ∨ c = ')' then
      if seen.head? = some '-' then none
      else if c = ')' ∧ seen.isEmpty then none
      else some (flags, c, cs)
    else if seen.contains c then none
    else if c = '-' then flags.read (c :: seen) false cs
    else
      match flags.set? on c with
      | some flags => flags.read (c :: seen) on cs
      | none => none

end Flags

end PolicyDecision.Pattern

/-! Sets of characters in brackets. -/

namespace PolicyDecision.Pattern.Bracketed

open Text

private def lowercase : Intervals := .range 'a' 'z'
private def uppercase : Intervals := .range 'A' 'Z'
private def numerals : Intervals := .range '0' '9'

/-- The sets of ASCII characters that have a name. -/
def named? (name : String) : Option Intervals :=
  match name with
  | "alnum" => some (.unionOf [numerals, uppercase, lowercase])
  | "alpha" => some (.unionOf [uppercase, lowercase])
  | "ascii" => some (.range '\x00' '\x7f')
  | "blank" => some (.unionOf [.char '\t', .char ' '])
  | "cntrl" => some (.unionOf [.range '\x00' '\x1f', .char '\x7f'])
  | "digit" => some numerals
  | "graph" => some (.range '!' '~')
  | "lower" => some lowercase
  | "print" => some (.range ' ' '~')
  | "punct" =>
    some (.unionOf [.range '!' '/', .range ':' '@', .range '[' '\x60', .range '\x7b' '~'])
  | "space" => some (.unionOf [.range '\t' '\r', .char ' '])
  | "upper" => some uppercase
  | "word" => some (.unionOf [numerals, uppercase, lowercase, .char '_'])
  | "xdigit" => some (.unionOf [numerals, .range 'A' 'F', .range 'a' 'f'])
  | _ => none

/-- The set with its case variants or, if a circumflex stood before it, the characters outside. -/
def negatedIf (negated : Bool) (flags : Flags) (s : Intervals) : Intervals :=
  let s := flags.withCase s
  if negated then s.complement else s

def readCircumflex : List Char → Bool × List Char
  | '^' :: cs => (true, cs)
  | cs => (false, cs)

/-- Reads a named set after its opening bracket. -/
def readNamed (flags : Flags) : List Char → Option (Intervals × List Char)
  | ':' :: cs =>
    let (negated, cs) := readCircumflex cs
    match cs.dropWhile (· != ':') with
    | ':' :: ']' :: rest => do
      let s ← named? (String.ofList (cs.takeWhile (· != ':')))
      return (negatedIf negated flags s, rest)
    | _ => none
  | _ => none

/-- One character, or a set that an escape stands for. -/
def readItem : List Char → Option ((Char ⊕ Intervals) × List Char)
  | [] => none
  | '\\' :: cs =>
    match Escape.read cs with
    | some (.literal c, rest) => some (.inl c, rest)
    | some (.set s, rest) => some (.inr s, rest)
    | _ => none
  | c :: cs => some (.inl c, cs)

/-- A character, an escaped set, or a range. A hyphen before the closing bracket or before another
hyphen is no range. -/
def readRange (cs : List Char) : Option (Intervals × List Char) := do
  let (item, rest) ← readItem cs
  let single := match item with
    | .inl c => Intervals.char c
    | .inr s => s
  match rest with
  | [] => none
  | '-' :: ']' :: _ | '-' :: '-' :: _ => return (single, rest)
  | '-' :: after =>
    match item, ← readItem after with
    | .inl low, (.inl high, rest) => if low ≤ high then return (.range low high, rest) else none
    | _, _ => none
  | _ => return (single, rest)

/-- After an opening bracket hyphens and, if there is none, one closing bracket stand for
themselves. They come last one first. -/
def readInitial (cs : List Char) : List Intervals × List Char :=
  let hyphens := cs.takeWhile (· == '-')
  match hyphens, cs.dropWhile (· == '-') with
  | [], ']' :: rest => ([.char ']'], rest)
  | _, rest => (hyphens.map .char, rest)

/-- An operator that waits for its right operand, with its left operand. -/
abbrev Pending := Option ((Intervals → Intervals → Intervals) × Nested Intervals)

/-- Items in a row are united, and then the operator that waits for them is applied. -/
def operand (flags : Flags) (pending : Pending) (items : List (Nested Intervals)) :
    Nested Intervals :=
  let right := Nested.row .unionOf items
  match pending with
  | none => right
  | some (op, left) =>
    ⟨op (flags.withCase left.content) (flags.withCase right.content),
      max left.depth right.depth + 1⟩

/-- Reads up to the closing bracket. The operators bind from left to right. No more than `room`
further brackets may be open. -/
def readBody (flags : Flags) :
    Nat → Nat → Pending → List (Nested Intervals) → List Char →
      Option (Nested Intervals × List Char)
  | 0, _, _, _, _ => none
  | fuel + 1, room, pending, items, cs =>
    let operator op rest :=
      readBody flags fuel room (some (op, operand flags pending items)) [] rest
    match cs with
    | [] => none
    | ']' :: rest => some (operand flags pending items, rest)
    | '&' :: '&' :: rest => operator .inter rest
    | '-' :: '-' :: rest => operator .diff rest
    | '~' :: '~' :: rest => operator .symmDiff rest
    | '[' :: rest =>
      match readNamed flags rest, room with
      | some (s, rest), _ => readBody flags fuel room pending (⟨s, 0⟩ :: items) rest
      | none, 0 => none
      | none, inside + 1 => do
        let (negated, rest) := readCircumflex rest
        let (initial, rest) := readInitial rest
        let (s, rest) ← readBody flags fuel inside none (initial.map (⟨·, 0⟩)) rest
        readBody flags fuel room pending (s.within (negatedIf negated flags) :: items) rest
    | _ => do
      let (s, rest) ← readRange cs
      readBody flags fuel room pending (⟨s, 0⟩ :: items) rest

/-- Reads a set after its opening bracket. -/
def read (flags : Flags) (room : Nat) (cs : List Char) :
    Option (Nested Intervals × List Char) := do
  let (negated, rest) := readCircumflex cs
  let (initial, rest) := readInitial rest
  let (s, rest) ← readBody flags (cs.length + 1) room none (initial.map (⟨·, 0⟩)) rest
  return (s.within (negatedIf negated flags), rest)

end PolicyDecision.Pattern.Bracketed
