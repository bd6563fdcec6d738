import PolicyDecision.Decimal.Binary64
import PolicyDecision.Decimal.Digits

/-! The shortest decimal that reads back as a given double, written without an exponent. -/

namespace PolicyDecision.Decimal

/-- The number `significand · 10 ^ exponent`. -/
structure Scaled where
  significand : Nat
  exponent : Int
  deriving Repr, DecidableEq

/-- The numbers that are read as one positive double, in quarters of its unit in the last place:
from `low` to `high` times `2 ^ exponent`, with `centre` the double itself. -/
structure RoundingInterval where
  low : Nat
  centre : Nat
  high : Nat
  exponent : Int
  closed : Bool
  deriving Repr, DecidableEq

/-- Below a power of two the doubles are twice as dense. -/
def RoundingInterval.of (b : Binary64) : RoundingInterval :=
  let atPower := b.mantissa = Nat.pow 2 Binary64.fractionBits ∧ Binary64.leastExponent < b.exponent
  { low := 4 * b.mantissa - (if atPower then 1 else 2)
    centre := 4 * b.mantissa
    high := 4 * b.mantissa + 2
    exponent := b.exponent - 2
    closed := b.mantissa % 2 == 0 }

namespace RoundingInterval

/-- The factor and the divisor that turn a number of quarters into a multiple of `10 ^ e`. -/
def scale (interval : RoundingInterval) (e : Int) : Nat × Nat :=
  (Nat.pow 2 interval.exponent.toNat * Nat.pow 10 (-e).toNat,
    Nat.pow 2 (-interval.exponent).toNat * Nat.pow 10 e.toNat)

/-- Whether `n · 10 ^ e` is read as the double. -/
def contains (interval : RoundingInterval) (e : Int) (n : Nat) : Bool :=
  let (factor, divisor) := interval.scale e
  if interval.closed then
    decide (interval.low * factor ≤ n * divisor) && decide (n * divisor ≤ interval.high * factor)
  else
    decide (interval.low * factor < n * divisor) && decide (n * divisor < interval.high * factor)

/-- The multiple of `10 ^ e` nearest to the double, if one is read as the double. -/
def nearest? (interval : RoundingInterval) (e : Int) : Option Nat :=
  let (factor, divisor) := interval.scale e
  let below := interval.centre * factor / divisor
  let remainder := interval.centre * factor % divisor
  let inBelow := 0 < below && interval.contains e below
  let inAbove := interval.contains e (below + 1)
  if inBelow && (!inAbove || decide (2 * remainder < divisor)) then some below
  else if inAbove then some (below + 1)
  else none

/-- Tries the powers of ten downwards from `10 ^ start`. -/
def search (interval : RoundingInterval) (start : Int) : Nat → Scaled
  | 0 => ⟨0, 0⟩
  | fuel + 1 =>
    match interval.nearest? start with
    | some n => ⟨n, start⟩
    | none => interval.search (start - 1) fuel

end RoundingInterval

/-- The coarsest power of ten with a multiple that is read as the double, and the nearest such
multiple. Every double lies on the grid of `10 ^ -1074`. -/
def shortest (b : Binary64) : Scaled :=
  if b.mantissa = 0 then ⟨0, 0⟩
  else
    let start := (digits (b.mantissa * Nat.pow 2 b.exponent.toNat)).length
    (RoundingInterval.of b).search start (start + 1075)

/-- The digits with a point at its place. A whole number has no point. -/
def Scaled.positional (d : Scaled) : List Char :=
  let ds := digits d.significand
  if 0 ≤ d.exponent then
    if d.significand = 0 then ds else ds ++ List.replicate d.exponent.toNat '0'
  else
    let places := d.exponent.natAbs
    if ds.length ≤ places then
      ['0', '.'] ++ List.replicate (places - ds.length) '0' ++ ds
    else ds.take (ds.length - places) ++ ['.'] ++ ds.drop (ds.length - places)

/-- The spellings of the doubles that are no numbers. -/
structure SpecialNames where
  infinity : String
  notANumber : String

def ofFloat (names : SpecialNames) (d : Float) : String :=
  if Binary64.isNaN d then names.notANumber
  else
    let sign := if Binary64.isNegative d then "-" else ""
    if Binary64.isFinite d then sign ++ String.ofList (shortest (Binary64.ofFloat d)).positional
    else sign ++ names.infinity

end PolicyDecision.Decimal
