import PolicyDecision.DataType
import PolicyDecision.Decimal.Digits
import PolicyDecision.Text.Blank

/-! What can be wrong with a text that is to be read as a value or as a version. -/

namespace PolicyDecision.Lexical

/-- The kinds of text that are read. -/
inductive Form
  | value (type : DataType)
  | version
  | versionPattern
  deriving Repr, DecidableEq

def Form.name : Form → String
  | .value type => type.shortName
  | .version => "version"
  | .versionPattern => "version pattern"

inductive Flaw
  /-- The text is not in the language of its form. -/
  | ungrammatical
  | notBoolean
  | noDigits
  | invalidDigit
  | tooLarge
  | tooSmall
  | unexpectedLetters
  | emptyDouble
  | invalidDouble
  | timeWithoutComponent
  | noComponents
  | tooManyMonths
  | lengthNotMultipleOfFour
  | badPadding
  | badSymbol (symbol : Char)
  | noDomain
  | noAttributeValue
  | noAttributeType
  deriving Repr, DecidableEq

inductive Error
  | flawed (form : Form) (text : String) (flaw : Flaw)
  | calendarDate (year : Int) (month day : Nat)
  | timeOfDay (hour minute second : Nat)
  | offset (minutes : Int)
  deriving Repr, DecidableEq

/-- A text outside the language of its form is shown once more, without the white space around. -/
def Flaw.message (text : String) : Flaw → String
  | .ungrammatical => Text.trim text
  | .notBoolean => "expected true or false"
  | .noDigits => "cannot parse integer from empty string"
  | .invalidDigit => "invalid digit found in string"
  | .tooLarge => "number too large to fit in target type"
  | .tooSmall => "number too small to fit in target type"
  | .unexpectedLetters => "unexpected characters"
  | .emptyDouble => "cannot parse float from empty string"
  | .invalidDouble => "invalid float literal"
  | .timeWithoutComponent => "'T' must be followed by a component"
  | .noComponents => "no components"
  | .tooManyMonths => "overflow"
  | .lengthNotMultipleOfFour => "length is not a multiple of 4"
  | .badPadding => "bad padding"
  | .badSymbol symbol => "bad symbol '" ++ symbol.toString ++ "'"
  | .noDomain => "expected local@domain"
  | .noAttributeValue => "expected type=value"
  | .noAttributeType => "empty attribute type"

private def twoDigits (n : Nat) : String := String.ofList (Decimal.padded 2 n)

def Error.message (e : Error) : String :=
  "parse error: " ++
    match e with
    | .flawed form text flaw =>
      "invalid " ++ form.name ++ " '" ++ text ++ "': " ++ flaw.message text
    | .calendarDate year month day =>
      "invalid calendar date " ++ String.ofList (Decimal.ofInt year) ++ "-" ++ twoDigits month ++
        "-" ++ twoDigits day
    | .timeOfDay hour minute second =>
      "invalid time of day " ++ twoDigits hour ++ ":" ++ twoDigits minute ++ ":" ++ twoDigits second
    | .offset minutes =>
      "timezone offset " ++ String.ofList (Decimal.ofInt minutes) ++ " minutes out of range"

end PolicyDecision.Lexical
