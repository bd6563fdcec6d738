import PolicyDecision.Decimal.Digits
import PolicyDecision.Lexical.Error
import PolicyDecision.Text.Alphabetic

/-! Integers of 64 bits and doubles read from text. -/

namespace PolicyDecision.Decimal

open Lexical (Flaw)

def greatestInteger : Int := Int.pow 2 63 - 1

def leastInteger : Int := -Int.pow 2 63

/-- Digits up to a limit; of an invalid digit and a number beyond the limit the one that comes
first is reported. -/
def readNatural (limit : Nat) (beyond : Flaw) : Nat → List Char → Except Flaw Nat
  | n, [] => .ok n
  | n, c :: cs =>
    if c.isDigit then
      let next := 10 * n + digitValue c
      if limit < next then .error beyond else readNatural limit beyond next cs
    else .error .invalidDigit

/-- An optional minus, then digits. -/
def readSigned : List Char → Except Flaw Int
  | [] => .error .noDigits
  | ['-'] => .error .invalidDigit
  | '-' :: cs => (readNatural (Nat.pow 2 63) .tooSmall 0 cs).map fun n => -(n : Int)
  | cs => (readNatural (Nat.pow 2 63 - 1) .tooLarge 0 cs).map fun n => (n : Int)

/-- Any number of plus signs may stand in front. -/
def readInteger (text : String) : Except Lexical.Error Int :=
  (readSigned ((Text.trimmed text.toList).dropWhile (· == '+'))).mapError
    (.flawed (.value .integer) text)

/-- The parts of a written double: the number is `significand · 10 ^ exponent`. -/
structure Scientific where
  negative : Bool
  significand : Nat
  exponent : Int
  deriving Repr, DecidableEq

private def takeSign : List Char → Bool × List Char
  | '-' :: cs => (true, cs)
  | '+' :: cs => (false, cs)
  | cs => (false, cs)

/-- What may follow the digits: nothing, or the letter `e`, a sign and digits. -/
def readExponent : List Char → Option Int
  | [] => some 0
  | c :: cs =>
    if c = 'e' ∨ c = 'E' then
      let (negative, ds) := takeSign cs
      if ds.isEmpty || !ds.all Char.isDigit then none
      else some (if negative then -(ofDigits ds : Int) else ofDigits ds)
    else none

/-- There is a digit before or after the point. -/
def readScientific (cs : List Char) : Option Scientific := do
  let (negative, cs) := takeSign cs
  let whole := cs.takeWhile Char.isDigit
  let rest := cs.dropWhile Char.isDigit
  let (places, rest) :=
    match rest with
    | '.' :: after => (after.takeWhile Char.isDigit, after.dropWhile Char.isDigit)
    | _ => ([], rest)
  if whole.isEmpty && places.isEmpty then none
  else
    let exponent ← readExponent rest
    return ⟨negative, ofDigits (whole ++ places), exponent - places.length⟩

/-- The size of the nearest double. Numbers of 10 ^ 310 and more are infinite, numbers below
10 ^ -330 are zero. -/
def Scientific.magnitude (s : Scientific) : Float :=
  let places := (digits s.significand).length
  if s.significand = 0 ∨ s.exponent + places < -330 then 0
  else if 310 < s.exponent + places then 1 / 0
  else Float.ofScientific s.significand (s.exponent < 0) s.exponent.natAbs

def Scientific.toFloat (s : Scientific) : Float :=
  if s.negative then -s.magnitude else s.magnitude

private def special? (text : String) : Option Float :=
  match text with
  | "INF" | "+INF" => some (1 / 0)
  | "-INF" => some (-(1 / 0))
  | "NaN" => some (0 / 0)
  | _ => none

def readDouble (text : String) : Except Lexical.Error Float :=
  let cs := Text.trimmed text.toList
  let refuse flaw := .error (.flawed (.value .double) text flaw)
  match special? (String.ofList cs) with
  | some d => .ok d
  | none =>
    if cs.any Text.isAlphabetic && !cs.any fun c => c == 'e' || c == 'E' then
      refuse .unexpectedLetters
    else if cs.isEmpty then refuse .emptyDouble
    else
      match readScientific cs with
      | some s => .ok s.toFloat
      | none => refuse .invalidDouble

end PolicyDecision.Decimal
