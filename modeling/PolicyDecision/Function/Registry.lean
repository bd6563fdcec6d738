import PolicyDecision.Catalogue
import PolicyDecision.Function.Call

/-! Functions under their URIs. -/

namespace PolicyDecision

namespace StandardFunction

def namespace1 : String := "urn:oasis:names:tc:xacml:1.0:function:"

def namespace2 : String := "urn:oasis:names:tc:xacml:2.0:function:"

def namespace3 : String := "urn:oasis:names:tc:xacml:3.0:function:"

/-- A function that exists for every type. Those of the durations have a second URI, in the
namespace of version 3.0. -/
def forType (type : DataType) (suffix : String) (f : StandardFunction) :
    List (String × StandardFunction) :=
  let name := type.shortName ++ "-" ++ suffix
  if type.isDuration then [(namespace1 ++ name, f), (namespace3 ++ name, f)]
  else [(namespace1 ++ name, f)]

def equalities : List (String × StandardFunction) :=
  (namespace3 ++ "string-equal-ignore-case", equalIgnoringCase) ::
    DataType.all.flatMap fun t => forType t "equal" (equal t)

def arithmetics : List (String × StandardFunction) :=
  [("integer-add", .integerAdd), ("integer-subtract", .integerSubtract),
    ("integer-multiply", .integerMultiply), ("integer-divide", .integerDivide),
    ("integer-mod", .integerMod), ("integer-abs", .integerAbs), ("double-add", .doubleAdd),
    ("double-subtract", .doubleSubtract), ("double-multiply", .doubleMultiply),
    ("double-divide", .doubleDivide), ("double-abs", .doubleAbs), ("round", .round),
    ("floor", .floor), ("integer-to-double", .integerToDouble),
    ("double-to-integer", .doubleToInteger)].map
      fun (name, op) => (namespace1 ++ name, arithmetic op)

def connectives : List (String × StandardFunction) :=
  [("or", .or), ("and", .and), ("not", .not), ("n-of", .nOf)].map
    fun (name, op) => (namespace1 ++ name, logical op)

def comparisons : List (String × StandardFunction) :=
  (namespace2 ++ "time-in-range", timeInRange) ::
    (DataType.all.filter DataType.isOrdered).flatMap fun t =>
      Comparison.all.map fun op => (namespace1 ++ t.shortName ++ "-" ++ op.suffix, compare t op)

def shifts : List (String × StandardFunction) :=
  [namespace1, namespace3].flatMap fun uri =>
    [Shift.dateTimeByDayTime, .dateTimeByYearMonth, .dateByYearMonth].flatMap fun s =>
      [Direction.add, .subtract].map fun d =>
        (uri ++ s.base.shortName ++ "-" ++ d.name ++ "-" ++ s.duration.shortName, shift s d)

def bags : List (String × StandardFunction) :=
  DataType.all.flatMap fun t =>
    (BagOperation.all.flatMap fun op => forType t op.suffix (bag t op)) ++
      (SetOperation.all.flatMap fun op => forType t op.suffix (set t op)) ++
      forType t "union" (union t)

/-- Four of them have a second URI in version 3.0. -/
def higherOrders : List (String × StandardFunction) :=
  let both := [("any-of", .anyOf), ("all-of", .allOf), ("any-of-any", .anyOfAny), ("map", .map)]
  let first := [("all-of-any", .allOfAny), ("any-of-all", .anyOfAll), ("all-of-all", .allOfAll)]
  ((both ++ first).map fun (name, op) => (namespace1 ++ name, higherOrder op)) ++
    both.map fun (name, op) => (namespace3 ++ name, higherOrder op)

/-- The types whose values are made from strings and written as strings. -/
def convertible : List DataType :=
  [.boolean, .integer, .double, .time, .date, .dateTime, .anyURI, .dayTimeDuration,
    .yearMonthDuration, .x500Name, .rfc822Name]

def conversions : List (String × StandardFunction) :=
  convertible.flatMap fun t =>
    [(namespace3 ++ t.shortName ++ "-from-string", fromString t),
      (namespace3 ++ "string-from-" ++ t.shortName, toString t)]

def searches : List (String × StandardFunction) :=
  [("starts-with", Position.start), ("ends-with", .finish), ("contains", .anywhere)].flatMap
    fun (name, position) => [DataType.string, .anyURI].map
      fun t => (namespace3 ++ t.shortName ++ "-" ++ name, occurs t position)

def patterns : List (String × StandardFunction) :=
  (namespace1 ++ "string-regexp-match", matchesPattern .string) ::
    [DataType.anyURI, .rfc822Name, .x500Name].map
      fun t => (namespace2 ++ t.shortName ++ "-regexp-match", matchesPattern t)

def texts : List (String × StandardFunction) :=
  [(namespace2 ++ "string-concatenate", concatenate),
    (namespace1 ++ "string-normalize-space", normalizeSpace),
    (namespace1 ++ "string-normalize-to-lower-case", normalizeToLowerCase),
    (namespace3 ++ "string-substring", substring .string),
    (namespace3 ++ "anyURI-substring", substring .anyURI),
    (namespace1 ++ "x500Name-match", x500NameMatch),
    (namespace1 ++ "rfc822Name-match", rfc822NameMatch),
    (namespace1 ++ "xpath-node-count", nodeCount), (namespace3 ++ "xpath-node-count", nodeCount)]

/-- Every URI of the standard library with its function. -/
def library : List (String × StandardFunction) :=
  equalities ++ arithmetics ++ connectives ++ comparisons ++ shifts ++ bags ++ higherOrders ++
    conversions ++ searches ++ patterns ++ texts

end StandardFunction

/-- The functions that are not standard are numbered in the order in which they came. A function
that was replaced keeps its number, for it may live on in a value. -/
structure FunctionRegistry where
  callees : Catalogue Callee
  custom : List CustomFunction

namespace FunctionRegistry

def empty : FunctionRegistry := ⟨∅, []⟩

def standard : FunctionRegistry :=
  ⟨.ofList (StandardFunction.library.map fun (uri, f) => (uri, .standard f)), []⟩

def find? (r : FunctionRegistry) (uri : String) : Option FunctionRef :=
  (r.callees.get? uri).map (FunctionRef.mk uri)

def contains (r : FunctionRegistry) (uri : String) : Bool := r.callees.contains uri

def size (r : FunctionRegistry) : Nat := r.callees.size

def isEmpty (r : FunctionRegistry) : Bool := r.callees.isEmpty

/-- The URIs in order. -/
def uris (r : FunctionRegistry) : List String := r.callees.keys

/-- Adds a function, or replaces the one under the URI. -/
def register (r : FunctionRegistry) (uri : String) (f : CustomFunction) : FunctionRegistry :=
  ⟨r.callees.insert uri (.registered r.custom.length), r.custom ++ [f]⟩

def call (r : FunctionRegistry) (context : FunctionContext) (f : FunctionRef) (args : Arguments) :
    Outcome Evaluated :=
  f.callee.call r.custom context args

def require (r : FunctionRegistry) (uri : String) : Except ConfigurationError FunctionRef :=
  match r.find? uri with
  | some f => .ok f
  | none => .error (.unknownFunction uri)

end FunctionRegistry

end PolicyDecision
