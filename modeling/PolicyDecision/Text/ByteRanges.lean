import PolicyDecision.Text.Intervals

/-! Intervals of characters as sequences of byte ranges: a character lies in an interval if the
bytes of its UTF-8 form lie in the ranges of one of the sequences, byte by byte. -/

namespace PolicyDecision.Text

/-- A closed interval of bytes. -/
abbrev ByteRange := Nat × Nat

/-- The numbers from `low` to `high` by their digits to base 64: a leading digit and `count` further
ones. The sequences are in the order of the numbers, and as few as possible. -/
def digitRanges : (count low high : Nat) → List (List (Nat × Nat))
  | 0, low, high => [[(low, high)]]
  | count + 1, low, high =>
    let unit := Nat.pow 64 (count + 1)
    let (first, low) := (low / unit, low % unit)
    let (last, high) := (high / unit, high % unit)
    let starting digit low high := (digitRanges count low high).map ((digit, digit) :: ·)
    if first = last then starting first low high
    else
      let fullFrom := if low = 0 then first else first + 1
      let fullTo := if high = unit - 1 then last else last - 1
      (if low = 0 then [] else starting first low (unit - 1)) ++
        (if fullFrom ≤ fullTo then [(fullFrom, fullTo) :: List.replicate (count + 1) (0, 63)]
          else []) ++
        (if high = unit - 1 then [] else starting last 0 high)

/-- The code points with one length of their UTF-8 form. -/
structure EncodingZone where
  least : Nat
  greatest : Nat
  /-- How many bytes follow the first. -/
  continuation : Nat
  /-- What is added to the leading digit. -/
  mark : Nat

def encodingZones : List EncodingZone :=
  [⟨0, 0x7F, 0, 0⟩, ⟨0x80, 0x7FF, 1, 0xC0⟩, ⟨0x800, 0xFFFF, 2, 0xE0⟩, ⟨0x10000, 0x10FFFF, 3, 0xF0⟩]

/-- Digits as bytes. -/
def EncodingZone.bytes (z : EncodingZone) : List (Nat × Nat) → List ByteRange
  | [] => []
  | (low, high) :: rest =>
    (z.mark + low, z.mark + high) :: rest.map fun (low, high) => (0x80 + low, 0x80 + high)

/-- The sequences of a set of characters, in the order of the characters. -/
def Intervals.byteRanges (s : Intervals) : List (List ByteRange) :=
  s.flatMap fun (low, high) => encodingZones.flatMap fun z =>
    let (low, high) := (max low z.least, min high z.greatest)
    if low ≤ high then (digitRanges z.continuation low high).map z.bytes else []

end PolicyDecision.Text
