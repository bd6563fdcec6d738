/-! Natural numbers and integers as decimal digits. -/

namespace PolicyDecision.Decimal

def digitValue (c : Char) : Nat := c.toNat - '0'.toNat

/-- The number written by the digits, most significant digit first. -/
def ofDigits (cs : List Char) : Nat := cs.foldl (fun n c => 10 * n + digitValue c) 0

def digits (n : Nat) : List Char := Nat.toDigits 10 n

/-- Zeros in front fill the digits up to `width`. -/
def padded (width n : Nat) : List Char :=
  List.replicate (width - (digits n).length) '0' ++ digits n

def ofInt : Int → List Char
  | .ofNat n => digits n
  | .negSucc n => '-' :: digits (n + 1)

/-- The digits up to the last one that is not zero. -/
def withoutTrailingZeros (cs : List Char) : List Char :=
  (cs.reverse.dropWhile (· == '0')).reverse

/-- A fraction of `width` digits, the point included; nothing if it is zero. -/
def fraction (width n : Nat) : List Char :=
  if n = 0 then [] else '.' :: withoutTrailingZeros (padded width n)

end PolicyDecision.Decimal
