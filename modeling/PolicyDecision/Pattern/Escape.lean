import PolicyDecision.Binary
import PolicyDecision.Pattern.Syntax
import PolicyDecision.Text.Blank

/-! Backslashes in a pattern. -/

namespace PolicyDecision.Pattern

open Text

/-- What a backslash and the characters after it stand for. -/
inductive Escape
  | literal (c : Char)
  | set (s : Intervals)
  | anchor (a : Anchor)
  deriving Repr, DecidableEq

namespace Escape

def isMeta (c : Char) : Bool :=
  ['\\', '.', '+', '*', '?', '(', ')', '|', '[', ']', '\x7b', '\x7d', '^', '$', '#', '&', '-',
    '~'].contains c

/-- Characters that stand for themselves after a backslash. -/
def isEscapable (c : Char) : Bool :=
  isMeta c || (decide (c.toNat < 128) && !c.isAlphanum && c != '<' && c != '>')

def scalar? (n : Nat) : Option Char := if n.isValidChar then some (Char.ofNat n) else none

def hexNumber? (ds : List Char) : Option Nat := do
  let values ← ds.mapM Binary.Hex.digitValue?
  return values.foldl (16 * · + ·) 0

/-- Two, four or eight hexadecimal digits, or any number of them in braces. -/
def readHex (width : Nat) (cs : List Char) : Option (Char × List Char) :=
  match cs with
  | '\x7b' :: rest => do
    let ds := rest.takeWhile (· != '\x7d')
    if ds.isEmpty then none
    else
      match rest.dropWhile (· != '\x7d') with
      | _ :: rest => return (← scalar? (← hexNumber? ds), rest)
      | [] => none
  | _ => do
    let ds := cs.take width
    if ds.length < width then none
    else return (← scalar? (← hexNumber? ds), cs.drop width)

def namedBoundary? (name : String) : Option Anchor :=
  match name with
  | "start" => some .wordStart
  | "end" => some .wordEnd
  | "start-half" => some .noWordBefore
  | "end-half" => some .noWordAfter
  | _ => none

/-- A word boundary may be followed by its name in braces. Braces that do not begin with a letter
or a hyphen are a repetition. -/
def readBoundary (cs : List Char) : Option (Anchor × List Char) :=
  let isNameCharacter (c : Char) := c.isAlpha || c == '-'
  match cs with
  | '\x7b' :: rest =>
    if (rest.head?.map isNameCharacter).getD false then
      match rest.dropWhile isNameCharacter with
      | '\x7d' :: after => do
        return (← namedBoundary? (String.ofList (rest.takeWhile isNameCharacter)), after)
      | _ => none
    else some (.wordBoundary, cs)
  | _ => some (.wordBoundary, cs)

/-- Reads what follows a backslash. -/
def read : List Char → Option (Escape × List Char)
  | [] => none
  | c :: cs =>
    if isEscapable c then some (literal c, cs)
    else
      match c with
      | 'x' => (readHex 2 cs).map fun (c, rest) => (literal c, rest)
      | 'u' => (readHex 4 cs).map fun (c, rest) => (literal c, rest)
      | 'U' => (readHex 8 cs).map fun (c, rest) => (literal c, rest)
      | 'd' => some (set decimalDigits, cs)
      | 'D' => some (set decimalDigits.complement, cs)
      | 's' => some (set blanks, cs)
      | 'S' => some (set blanks.complement, cs)
      | 'w' => some (set wordCharacters, cs)
      | 'W' => some (set wordCharacters.complement, cs)
      | 'a' => some (literal '\x07', cs)
      | 'f' => some (literal '\x0c', cs)
      | 't' => some (literal '\t', cs)
      | 'n' => some (literal '\n', cs)
      | 'r' => some (literal '\r', cs)
      | 'v' => some (literal '\x0b', cs)
      | 'A' => some (anchor .textStart, cs)
      | 'z' => some (anchor .textEnd, cs)
      | 'b' => (readBoundary cs).map fun (a, rest) => (anchor a, rest)
      | 'B' => some (anchor .insideOrOutsideWord, cs)
      | '<' => some (anchor .wordStart, cs)
      | '>' => some (anchor .wordEnd, cs)
      | _ => none

end Escape

end PolicyDecision.Pattern
