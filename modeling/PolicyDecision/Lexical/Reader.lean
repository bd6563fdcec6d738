import PolicyDecision.Decimal.Digits

/-! Readers of the start of a text, which return what they read and the rest of the text. -/

namespace PolicyDecision.Lexical

abbrev Reader := StateT (List Char) Option

namespace Reader

def char (c : Char) : Reader Unit := fun cs =>
  match cs with
  | d :: rest => if d = c then some ((), rest) else none
  | [] => none

/-- A reader that refuses the text is taken to have read nothing. -/
def maybe (r : Reader α) : Reader (Option α) := fun cs =>
  match r cs with
  | some (a, rest) => some (some a, rest)
  | none => some (none, cs)

/-- As many digits as there are, and at least `least`. -/
def digits (least : Nat) : Reader (List Char) := fun cs =>
  let ds := cs.takeWhile Char.isDigit
  if least ≤ ds.length then some (ds, cs.dropWhile Char.isDigit) else none

/-- A natural number in 64 bits. -/
def natural : Reader Nat := do
  let n := Decimal.ofDigits (← digits 1)
  if n < Nat.pow 2 64 then pure n else failure

def twoDigits : Reader Nat := fun cs =>
  match cs with
  | a :: b :: rest =>
    if a.isDigit && b.isDigit then some (Decimal.ofDigits [a, b], rest) else none
  | _ => none

/-- One or more items with a separator between each two. A separator with no item after it is not
read. -/
def separatedFrom (sep : Char) (item : Reader α) : Nat → List Char → List α × List Char
  | 0, cs => ([], cs)
  | fuel + 1, cs =>
    match (do char sep; item : Reader α) cs with
    | some (a, rest) =>
      let (as, rest) := separatedFrom sep item fuel rest
      (a :: as, rest)
    | none => ([], cs)

def separated (sep : Char) (item : Reader α) : Reader (List α) := do
  let a ← item
  fun cs =>
    let (as, rest) := separatedFrom sep item cs.length cs
    some (a :: as, rest)

/-- Reads the whole text or nothing. -/
def whole? (r : Reader α) (cs : List Char) : Option α :=
  match r cs with
  | some (a, []) => some a
  | _ => none

end Reader

end PolicyDecision.Lexical
