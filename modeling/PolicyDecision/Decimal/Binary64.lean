/-! The number that a double stands for: a sign, a natural number and a power of two. -/

namespace PolicyDecision.Decimal

/-- A finite double is `± mantissa · 2 ^ exponent`. -/
structure Binary64 where
  negative : Bool
  mantissa : Nat
  exponent : Int
  deriving Repr, DecidableEq

namespace Binary64

def fractionBits : Nat := 52

/-- The exponent of the subnormal doubles, which is the least one. -/
def leastExponent : Int := -1074

/-- The eleven bits of the exponent; all ones mark infinities and what is not a number. -/
def biasedExponent (d : Float) : Nat := (d.toBits.toNat / Nat.pow 2 fractionBits) % Nat.pow 2 11

def fractionOf (d : Float) : Nat := d.toBits.toNat % Nat.pow 2 fractionBits

def isNegative (d : Float) : Bool := d.toBits.toNat / Nat.pow 2 63 == 1

def isFinite (d : Float) : Bool := biasedExponent d != 2047

def isNaN (d : Float) : Bool := biasedExponent d == 2047 && fractionOf d != 0

def ofFloat (d : Float) : Binary64 :=
  if biasedExponent d = 0 then ⟨isNegative d, fractionOf d, leastExponent⟩
  else ⟨isNegative d, Nat.pow 2 fractionBits + fractionOf d, (biasedExponent d : Int) - 1075⟩

/-- The double with the given sign whose size is the natural number `n`. -/
def ofMagnitude (negative : Bool) (n : Nat) : Float :=
  if negative then -(Float.ofNat n) else Float.ofNat n

end Binary64

/-! Doubles rounded to whole numbers. -/

/-- How a number between two whole numbers is rounded. -/
inductive Rounding
  | towardZero
  | down
  | nearestEven
  deriving Repr, DecidableEq

/-- Rounds the size `whole + rest / unit` of a number with the given sign. -/
def Rounding.magnitude (rounding : Rounding) (negative : Bool) (whole rest unit : Nat) : Nat :=
  match rounding with
  | .towardZero => whole
  | .down => if negative && rest != 0 then whole + 1 else whole
  | .nearestEven =>
    if 2 * rest < unit then whole
    else if unit < 2 * rest then whole + 1
    else whole + whole % 2

/-- A double with no fraction, an infinity and what is not a number are left as they are. -/
def Rounding.apply (rounding : Rounding) (d : Float) : Float :=
  if !Binary64.isFinite d then d
  else
    let b := Binary64.ofFloat d
    if 0 ≤ b.exponent then d
    else
      let unit := Nat.pow 2 b.exponent.natAbs
      Binary64.ofMagnitude b.negative
        (rounding.magnitude b.negative (b.mantissa / unit) (b.mantissa % unit) unit)

/-- The whole part of a finite double. -/
def truncated (d : Float) : Int :=
  let b := Binary64.ofFloat d
  let size :=
    if 0 ≤ b.exponent then b.mantissa * Nat.pow 2 b.exponent.natAbs
    else b.mantissa / Nat.pow 2 b.exponent.natAbs
  if b.negative then -(size : Int) else size

end PolicyDecision.Decimal
