import PolicyDecision.Decimal.Digits
import PolicyDecision.Pattern.Bracketed
import PolicyDecision.Pattern.Simplified
import PolicyDecision.Text.Alphabetic
import PolicyDecision.Text.Numeric

/-! Regular expressions read from text. -/

namespace PolicyDecision.Pattern.Reader

/-! ## Repetitions -/

/-- Digits with white space around them, in 32 bits; nothing if there is no digit. -/
def readCount (cs : List Char) : Option (Option Nat × List Char) :=
  let cs := cs.dropWhile Text.isBlank
  let ds := cs.takeWhile Char.isDigit
  let rest := (cs.dropWhile Char.isDigit).dropWhile Text.isBlank
  if ds.isEmpty then some (none, rest)
  else if Decimal.ofDigits ds < Nat.pow 2 32 then some (some (Decimal.ofDigits ds), rest)
  else none

/-- Reads the bounds of a repetition after the opening brace. -/
def readBounds (cs : List Char) : Option (Bounds × List Char) := do
  let (least, rest) ← readCount cs
  let least ← least
  match rest with
  | '\x7d' :: rest => return ({ least, most := some least }, rest)
  | ',' :: '\x7d' :: rest => return ({ least, most := none }, rest)
  | ',' :: rest =>
    let (most, rest) ← readCount rest
    let most ← most
    match rest with
    | '\x7d' :: rest =>
      if least ≤ most then return ({ least, most := some most }, rest) else none
    | _ => none
  | _ => none

/-- A question mark after the bounds turns greed round. -/
def readGreed (flags : Flags) : List Char → Bool × List Char
  | '?' :: rest => (flags.swapGreed, rest)
  | cs => (!flags.swapGreed, cs)

/-! ## Groups -/

/-- What an opening bracket begins. -/
inductive Opening
  /-- Switches for the rest of the group around, and no group. -/
  | switches (flags : Flags)
  | plain (flags : Flags)
  /-- A group that gets a number, and may have a name. -/
  | captured (name : Option String)
  deriving Repr, DecidableEq

def isNameCharacter (first : Bool) (c : Char) : Bool :=
  c == '_' || Text.isAlphabetic c ||
    (!first && (c == '.' || c == '[' || c == ']' || Text.isNumeric c))

/-- The name of a group, which no other group may have. -/
def readGroupName (names : List String) (cs : List Char) : Option (String × List Char) :=
  let name := cs.takeWhile (· != '>')
  match name, cs.dropWhile (· != '>') with
  | first :: others, _ :: rest =>
    let text := String.ofList name
    if isNameCharacter true first && others.all (isNameCharacter false) && !names.contains text then
      some (text, rest)
    else none
  | _, _ => none

/-- Reads what follows the opening bracket of a group. -/
def readOpening (flags : Flags) (names : List String) (cs : List Char) :
    Option (Opening × List Char) :=
  let named rest := (readGroupName names rest).map fun (name, rest) => (.captured (some name), rest)
  match cs with
  | '?' :: 'P' :: '<' :: rest => named rest
  | '?' :: '<' :: '=' :: _ | '?' :: '<' :: '!' :: _ => none
  | '?' :: '<' :: rest => named rest
  | '?' :: rest => do
    let (inner, last, rest) ← flags.read [] true rest
    return (if last = ')' then .switches inner else .plain inner, rest)
  | _ => some (.captured none, cs)

/-! ## Patterns -/

structure State where
  rest : List Char
  flags : Flags := {}
  /-- How many groups have a number so far. -/
  groups : Nat := 0
  names : List String := []
  deriving Repr, DecidableEq

/-- A part of a pattern, read. Nothing is left of a switch. -/
abbrev Part := Nested (Option Pattern)

/-- One character, escape or anchor. -/
def readPrimitive (flags : Flags) : List Char → Option (Pattern × List Char)
  | [] => none
  | '\\' :: cs => do
    match ← Escape.read cs with
    | (.literal c, rest) => return (ofSet (flags.withCase (.char c)), rest)
    | (.set s, rest) => return (ofSet s, rest)
    | (.anchor a, rest) => return (.anchor a, rest)
  | '.' :: cs =>
    some (.set (if flags.dotMatchesAll then .everything else (.complement (.char '\n'))), cs)
  | '^' :: cs => some (.anchor (if flags.multiLine then .lineStart else .textStart), cs)
  | '$' :: cs => some (.anchor (if flags.multiLine then .lineEnd else .textEnd), cs)
  | c :: cs => some (ofSet (flags.withCase (.char c)), cs)

/-- Repeats the last part, which must be there and be no switch. -/
def repeatLast (b : Bounds) : List Part → Option (List Part)
  | ⟨some p, depth⟩ :: parts => some (⟨some (ofRepetition p b), depth + 1⟩ :: parts)
  | _ => none

/-- Parts in a row, which come last one first. -/
def branch (parts : List Part) : Nested Pattern :=
  .row (fun ps => ofSeq (ps.filterMap id)) parts.reverse

/-- All branches, which come last one first. -/
def choice (branches : List (Nested Pattern)) : Nested Pattern := .row ofAlt branches.reverse

/-- Reads up to the end of a group or of the text. The branches before, and the parts of the
current branch, are kept last one first. No more than `room` further brackets may be open. -/
def readGroup : Nat → Nat → State → List (Nested Pattern) → List Part →
    Option (Nested Pattern × State)
  | 0, _, _, _, _ => none
  | fuel + 1, room, st, branches, parts =>
    let again parts rest := readGroup fuel room { st with rest } branches parts
    let repetition (b : Bounds) rest := do
      let (greedy, rest) := readGreed st.flags rest
      again (← repeatLast { b with greedy } parts) rest
    let group (opened : State) (f : Pattern → Pattern) :=
      match room with
      | 0 => none
      | inside + 1 => do
        let (p, inner) ← readGroup fuel inside opened [] []
        match inner.rest with
        | ')' :: rest =>
          readGroup fuel room { inner with rest, flags := st.flags } branches
            (p.within (fun p => some (f p)) :: parts)
        | _ => none
    match st.rest with
    | [] | ')' :: _ => some (choice (branch parts :: branches), st)
    | '|' :: rest => readGroup fuel room { st with rest } (branch parts :: branches) []
    | '(' :: rest => do
      match ← readOpening st.flags st.names rest with
      | (.switches flags, rest) =>
        readGroup fuel room { st with rest, flags } branches (⟨none, 0⟩ :: parts)
      | (.plain flags, rest) => group { st with rest, flags } id
      | (.captured name, rest) =>
        let number := st.groups + 1
        group { st with rest, groups := number, names := name.toList ++ st.names }
          (.captured number)
    | '[' :: rest =>
      match room with
      | 0 => none
      | inside + 1 => do
        let (s, rest) ← Bracketed.read st.flags inside rest
        again (⟨some (ofSet s.content), s.depth⟩ :: parts) rest
    | '?' :: rest => repetition ⟨0, some 1, true⟩ rest
    | '*' :: rest => repetition ⟨0, none, true⟩ rest
    | '+' :: rest => repetition ⟨1, none, true⟩ rest
    | '\x7b' :: rest => do
      let (b, rest) ← readBounds rest
      repetition b rest
    | cs => do
      let (p, rest) ← readPrimitive st.flags cs
      again (⟨some p, 0⟩ :: parts) rest

end Reader

/-- Reads a regular expression. -/
def read? (text : String) : Option Pattern :=
  match Reader.readGroup (text.length + 1) greatestDepth { rest := text.toList } [] [] with
  | some (⟨p, depth⟩, { rest := [], .. }) => if depth ≤ greatestDepth then some p else none
  | _ => none

end PolicyDecision.Pattern
