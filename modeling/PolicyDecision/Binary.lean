import PolicyDecision.Lexical.Error

/-! Bytes written as text: as hexadecimal digits, and in base 64. -/

namespace PolicyDecision.Binary.Hex

def digitValue? (c : Char) : Option Nat :=
  if '0' ≤ c ∧ c ≤ '9' then some (c.toNat - '0'.toNat)
  else if 'a' ≤ c ∧ c ≤ 'f' then some (c.toNat - 'a'.toNat + 10)
  else if 'A' ≤ c ∧ c ≤ 'F' then some (c.toNat - 'A'.toNat + 10)
  else none

def upperDigit (n : Nat) : Char :=
  if n < 10 then Char.ofNat ('0'.toNat + n) else Char.ofNat ('A'.toNat + (n - 10))

def encode (bytes : List UInt8) : List Char :=
  bytes.flatMap fun b => [upperDigit (b.toNat / 16), upperDigit (b.toNat % 16)]

def decode : List Char → Option (List UInt8)
  | [] => some []
  | [_] => none
  | high :: low :: rest => do
    let byte := UInt8.ofNat (16 * (← digitValue? high) + (← digitValue? low))
    return byte :: (← decode rest)

def read (text : String) : Except Lexical.Error (List UInt8) :=
  match decode (Text.trimmed text.toList) with
  | some bytes => .ok bytes
  | none => .error (.flawed (.value .hexBinary) text .ungrammatical)

end PolicyDecision.Binary.Hex

/-! Bytes written in base 64. White space of ASCII may stand anywhere and is dropped. -/

namespace PolicyDecision.Binary.Base64

def alphabet : List Char :=
  "ABCDEFGHIJKLMNOPQRSTUVWXYZabcdefghijklmnopqrstuvwxyz0123456789+/".toList

def symbol (sextet : Nat) : Char := alphabet.getD sextet '='

def sextet? (c : Char) : Option Nat := alphabet.idxOf? c

/-- Three bytes make four symbols. One or two bytes at the end are filled up with `=`. -/
def encode : List UInt8 → List Char
  | a :: b :: c :: rest =>
    let n := a.toNat * 65536 + b.toNat * 256 + c.toNat
    symbol (n / 262144) :: symbol (n / 4096 % 64) :: symbol (n / 64 % 64) :: symbol (n % 64) ::
      encode rest
  | [a, b] =>
    let n := a.toNat * 65536 + b.toNat * 256
    [symbol (n / 262144), symbol (n / 4096 % 64), symbol (n / 64 % 64), '=']
  | [a] =>
    let n := a.toNat * 65536
    [symbol (n / 262144), symbol (n / 4096 % 64), '=', '=']
  | [] => []

/-- Bits that do not fill a byte yet. -/
structure Accumulator where
  value : Nat
  bits : Nat
  deriving Repr, DecidableEq

/-- The accumulator with six more bits, before a byte is taken from it. -/
def Accumulator.append (acc : Accumulator) (sextet : Nat) : Accumulator :=
  ⟨acc.value * 64 + sextet, acc.bits + 6⟩

/-- Takes the eight highest bits, if there are so many. -/
def Accumulator.take (acc : Accumulator) : List UInt8 × Accumulator :=
  if 8 ≤ acc.bits then
    let rest := acc.bits - 8
    ([UInt8.ofNat (acc.value / Nat.pow 2 rest)], ⟨acc.value % Nat.pow 2 rest, rest⟩)
  else ([], acc)

/-- Bits left over at the end are dropped. -/
def bytes (acc : Accumulator) : List Nat → List UInt8
  | [] => []
  | sextet :: sextets =>
    let (taken, acc) := (acc.append sextet).take
    taken ++ bytes acc sextets

def sextets : List Char → Except Lexical.Flaw (List Nat)
  | [] => .ok []
  | c :: cs =>
    match sextet? c with
    | some n => (sextets cs).map (n :: ·)
    | none => .error (.badSymbol c)

/-- The symbols of a text are its bytes in UTF-8 that are not white space, each taken for the
character of the same number. -/
def symbols (text : List Char) : List Char :=
  ((text.flatMap String.utf8EncodeChar).map fun b => Char.ofNat b.toNat).filter
    (! Text.isAsciiBlank ·)

def padding (symbols : List Char) : Nat := (symbols.reverse.takeWhile (· == '=')).length

def decode (symbols : List Char) : Except Lexical.Flaw (List UInt8) :=
  if symbols.length % 4 ≠ 0 then .error .lengthNotMultipleOfFour
  else if 2 < padding symbols then .error .badPadding
  else (sextets (symbols.take (symbols.length - padding symbols))).map (bytes ⟨0, 0⟩)

def read (text : String) : Except Lexical.Error (List UInt8) :=
  (decode (symbols text.toList)).mapError (.flawed (.value .base64Binary) text)

end PolicyDecision.Binary.Base64
