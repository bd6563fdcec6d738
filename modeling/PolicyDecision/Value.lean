import PolicyDecision.Binary
import PolicyDecision.Calendar.Reader
import PolicyDecision.Decimal.Reader
import PolicyDecision.Decimal.Shortest
import PolicyDecision.Name

/-! Typed attribute values: reading, writing, equality and order. -/

namespace PolicyDecision

open Calendar

inductive Value
  | string (s : String)
  | boolean (b : Bool)
  | integer (n : Int)
  | double (d : Float)
  | date (d : Date)
  | time (t : Time)
  | dateTime (t : DateTime)
  | dayTimeDuration (d : DayTimeDuration)
  | yearMonthDuration (d : YearMonthDuration)
  | anyURI (s : String)
  | hexBinary (bytes : List UInt8)
  | base64Binary (bytes : List UInt8)
  | rfc822Name (name : Rfc822Name)
  | x500Name (name : X500Name)

namespace Value

def type : Value → DataType
  | string _ => .string
  | boolean _ => .boolean
  | integer _ => .integer
  | double _ => .double
  | date _ => .date
  | time _ => .time
  | dateTime _ => .dateTime
  | dayTimeDuration _ => .dayTimeDuration
  | yearMonthDuration _ => .yearMonthDuration
  | anyURI _ => .anyURI
  | hexBinary _ => .hexBinary
  | base64Binary _ => .base64Binary
  | rfc822Name _ => .rfc822Name
  | x500Name _ => .x500Name

def readBoolean (text : String) : Except Lexical.Error Bool :=
  let inner := Text.trim text
  if inner = "true" ∨ inner = "1" then .ok true
  else if inner = "false" ∨ inner = "0" then .ok false
  else .error (.flawed (.value .boolean) text .notBoolean)

/-- Reads the lexical form of a value of the given type. -/
def read : DataType → String → Except Lexical.Error Value
  | .string, text => .ok (string text)
  | .boolean, text => (readBoolean text).map boolean
  | .integer, text => (Decimal.readInteger text).map integer
  | .double, text => (Decimal.readDouble text).map double
  | .date, text => (Date.read text).map date
  | .time, text => (Time.read text).map time
  | .dateTime, text => (DateTime.read text).map dateTime
  | .dayTimeDuration, text => (DayTimeDuration.read text).map dayTimeDuration
  | .yearMonthDuration, text => (YearMonthDuration.read text).map yearMonthDuration
  | .anyURI, text => .ok (anyURI (Text.trim text))
  | .hexBinary, text => (Binary.Hex.read text).map hexBinary
  | .base64Binary, text => (Binary.Base64.read text).map base64Binary
  | .rfc822Name, text => (Rfc822Name.read text).map rfc822Name
  | .x500Name, text => (X500Name.read text).map x500Name

/-- How doubles without a decimal form are written as values. -/
def doubleNames : Decimal.SpecialNames := ⟨"INF", "NaN"⟩

/-- The canonical lexical form. -/
def written : Value → String
  | string s | anyURI s => s
  | boolean b => if b then "true" else "false"
  | integer n => String.ofList (Decimal.ofInt n)
  | double d => Decimal.ofFloat doubleNames d
  | date d => String.ofList d.written
  | time t => String.ofList t.written
  | dateTime t => String.ofList t.written
  | dayTimeDuration d => String.ofList d.written
  | yearMonthDuration d => String.ofList d.written
  | hexBinary bytes => String.ofList (Binary.Hex.encode bytes)
  | base64Binary bytes => String.ofList (Binary.Base64.encode bytes)
  | rfc822Name name => name.written
  | x500Name name => name.text

/-- Dates and times are equal when their instants are, names up to case. A double that is not a
number differs from itself. Values of two types differ. -/
def same : Value → Value → Bool
  | string a, string b => a == b
  | boolean a, boolean b => a == b
  | integer a, integer b => a == b
  | double a, double b => a == b
  | date a, date b => a.instant == b.instant
  | time a, time b => a.instant == b.instant
  | dateTime a, dateTime b => a.instant == b.instant
  | dayTimeDuration a, dayTimeDuration b => a == b
  | yearMonthDuration a, yearMonthDuration b => a == b
  | anyURI a, anyURI b => a == b
  | hexBinary a, hexBinary b => a == b
  | base64Binary a, base64Binary b => a == b
  | rfc822Name a, rfc822Name b => a.same b
  | x500Name a, x500Name b => a.same b
  | _, _ => false

/-- Equality within a type; values of two types are not comparable. -/
def equals (a b : Value) : Option Bool :=
  if a.type = b.type then some (a.same b) else none

/-- Doubles have no order when one of them is not a number. -/
def compareDoubles (a b : Float) : Option Ordering :=
  if a < b then some .lt
  else if a == b then some .eq
  else if b < a then some .gt
  else none

/-- The order of two values of one ordered type or of one kind of duration. -/
def compare : Value → Value → Option Ordering
  | string a, string b => some (compareOfLessAndEq a b)
  | integer a, integer b => some (Ord.compare a b)
  | double a, double b => compareDoubles a b
  | date a, date b => some (Ord.compare a.instant b.instant)
  | time a, time b => some (Ord.compare a.instant b.instant)
  | dateTime a, dateTime b => some (Ord.compare a.instant b.instant)
  | dayTimeDuration a, dayTimeDuration b => some (Ord.compare a.nanos b.nanos)
  | yearMonthDuration a, yearMonthDuration b => some (Ord.compare a.months b.months)
  | _, _ => none

def toBool? : Value → Option Bool
  | boolean b => some b
  | _ => none

/-- The text of a string or a URI. -/
def toText? : Value → Option String
  | string s | anyURI s => some s
  | _ => none

end Value

end PolicyDecision
