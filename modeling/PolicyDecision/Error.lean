import PolicyDecision.Decimal.Shortest
import PolicyDecision.Lexical.Error

/-! What can go wrong: errors of an evaluation, which make a decision indeterminate, and errors of
the configuration, which leave no decision at all. -/

namespace PolicyDecision

inductive StatusCode
  | ok
  | missingAttribute
  | syntaxError
  | processingError
  deriving Repr, DecidableEq

def StatusCode.name : StatusCode → String
  | ok => "ok"
  | missingAttribute => "missing-attribute"
  | syntaxError => "syntax-error"
  | processingError => "processing-error"

def StatusCode.uri (c : StatusCode) : String := "urn:oasis:names:tc:xacml:1.0:status:" ++ c.name

/-- What an expression evaluates to, without its content. -/
inductive Kind
  | value
  | bag
  | function
  deriving Repr, DecidableEq

def Kind.name : Kind → String
  | value => "value"
  | bag => "bag"
  | function => "function"

/-- What was found where something else was expected. -/
inductive Found
  | value (type : DataType)
  | bag
  | function
  deriving Repr, DecidableEq

def Found.name : Found → String
  | value type => type.shortName
  | bag => Kind.bag.name
  | function => Kind.function.name

/-- What a function expects as an argument. -/
inductive Expected
  | anyValue
  | value (type : DataType)
  | anyBag
  | bag (type : DataType)
  | function
  deriving Repr, DecidableEq

def Expected.name : Expected → String
  | anyValue => "a value"
  | value type => type.shortName
  | anyBag => "a bag"
  | bag type => "a bag of " ++ type.shortName
  | function => "a function"

inductive EvaluationError
  | lexical (e : Lexical.Error)
  /-- An error that an attribute source or a registered function reports in its own words. -/
  | reported (status : StatusCode) (text : String)
  /-- An error raised by a function, with the function's URI. -/
  | raisedBy (uri : String) (e : EvaluationError)
  | argumentCount (expected actual : Nat)
  | tooFewArguments (least actual : Nat)
  | argument (index : Nat) (expected : Expected) (found : Found)
  | missingArgument (index : Nat)
  | divisionByZero
  | integerOverflow
  | beyondIntegers (d : Float)
  | notOneValue (type : DataType) (size : Nat)
  | predicateNotBoolean (uri : String) (result : Kind)
  | mappedToNoValue (uri : String) (result : Kind)
  | functionAmongArguments
  | negativeCount (n : Int)
  | countTooLarge (required available : Nat)
  | substringRange (start finish : Int) (length : Nat)
  | invalidPattern (pattern : String)
  | patternTooLarge (pattern : String) (limit : Nat)
  | pathNotString (type : DataType)
  | noPathSupport (path : String)
  | conditionNotBoolean (found : Found)
  | matchNotBoolean (uri : String) (result : Kind)
  | attributeMissing (id dataType category : String)
  | nothingSelected (path : String)
  | undefinedVariable (id : String)
  | circularVariable (id : String)
  | functionAssigned (attributeId uri : String)
  | referenceTooDeep (id : String) (limit : Nat)
  | referenceCycle (id : String)
  | referenceNotFound (id : String)
  | undecided
  | unknownBlock (id : String)
  | notCombinable
  | nothingToCombine
  deriving Repr, DecidableEq

namespace EvaluationError

def status : EvaluationError → StatusCode
  | lexical _ | unknownBlock _ => .syntaxError
  | reported status _ => status
  | raisedBy _ e => e.status
  | attributeMissing .. | nothingSelected _ => .missingAttribute
  | _ => .processingError

/-- How doubles without a decimal form are named in messages. -/
def doubleNames : Decimal.SpecialNames := ⟨"inf", "NaN"⟩

private def number (n : Int) : String := String.ofList (Decimal.ofInt n)

def message : EvaluationError → String
  | lexical e => e.message
  | reported _ text => text
  | raisedBy uri e => uri ++ ": " ++ e.message
  | argumentCount expected actual =>
    "expected " ++ number expected ++ " arguments, got " ++ number actual
  | tooFewArguments least actual =>
    "expected at least " ++ number least ++ " arguments, got " ++ number actual
  | argument index expected found =>
    "argument " ++ number (index + 1) ++ ": expected " ++ expected.name ++ ", got " ++ found.name
  | missingArgument index => "missing argument " ++ number (index + 1)
  | divisionByZero => "division by zero"
  | integerOverflow => "integer overflow"
  | beyondIntegers d => Decimal.ofFloat doubleNames d ++ " is out of integer range"
  | notOneValue type size =>
    type.shortName ++ "-one-and-only: bag has " ++ number size ++ " values"
  | predicateNotBoolean uri result =>
    uri ++ " returned " ++ result.name ++ " where a boolean was expected"
  | mappedToNoValue uri result => uri ++ " returned " ++ result.name ++ " inside map"
  | functionAmongArguments => "any-of-any: unexpected function argument"
  | negativeCount n => "n-of: negative count " ++ number n
  | countTooLarge required available =>
    "n-of: " ++ number required ++ " required but only " ++ number available ++ " arguments"
  | substringRange start finish length =>
    "substring(" ++ number start ++ ", " ++ number finish ++ ") out of range for length " ++
      number length
  | invalidPattern pattern => "invalid regular expression '" ++ pattern ++ "': regex parse error:"
  | patternTooLarge pattern limit =>
    "invalid regular expression '" ++ pattern ++ "': Compiled regex exceeds size limit of " ++
      number limit ++ " bytes."
  | pathNotString type => "xpath-node-count: expected a string path, got " ++ type.shortName
  | noPathSupport path => "no XPath support for '" ++ path ++ "'"
  | conditionNotBoolean found =>
    "condition evaluated to " ++ found.name ++ " instead of a boolean"
  | matchNotBoolean uri result => uri ++ " returned " ++ result.name ++ " in a match"
  | attributeMissing id dataType category => id ++ " (" ++ dataType ++ ") in " ++ category
  | nothingSelected path => "no nodes selected by '" ++ path ++ "'"
  | undefinedVariable id => "undefined variable '" ++ id ++ "'"
  | circularVariable id => "variable '" ++ id ++ "' depends on itself"
  | functionAssigned attributeId uri =>
    "attribute assignment '" ++ attributeId ++ "' evaluated to function " ++ uri
  | referenceTooDeep id limit =>
    "reference to '" ++ id ++ "' exceeds the maximum depth of " ++ number limit
  | referenceCycle id => "reference cycle through '" ++ id ++ "'"
  | referenceNotFound id => "reference not found: '" ++ id ++ "'"
  | undecided => "no decision could be reached"
  | unknownBlock id => "request reference names unknown attributes '" ++ id ++ "'"
  | notCombinable => "individual decisions differ or carry obligations"
  | nothingToCombine => "no individual request to combine"

/-- The error with its status code. -/
def report (e : EvaluationError) : String := e.status.uri ++ ": " ++ e.message

end EvaluationError

inductive Malformation
  | parametersOfUnknownRule (rule : String)
  | badVersion (e : Lexical.Error)
  | badReferencePattern (reference : String) (e : Lexical.Error)
  deriving Repr, DecidableEq

def Malformation.message : Malformation → String
  | parametersOfUnknownRule rule => "combiner parameters for unknown rule '" ++ rule ++ "'"
  | badVersion e => "bad version: " ++ e.message
  | badReferencePattern reference e =>
    "bad version pattern in reference to '" ++ reference ++ "': " ++ e.message

inductive ConfigurationError
  | unknownAlgorithm (uri : String)
  | unknownFunction (uri : String)
  | unknownDataType (uri : String)
  | undefinedVariable (policy variableId : String)
  | cyclicVariables (path : List String)
  | duplicateRule (policy rule : String)
  | duplicateVariable (policy variableId : String)
  | malformed (policy : String) (reason : Malformation)
  | missingPolicy
  deriving Repr, DecidableEq

def ConfigurationError.message : ConfigurationError → String
  | unknownAlgorithm uri => "unknown combining algorithm '" ++ uri ++ "'"
  | unknownFunction uri => "unknown function '" ++ uri ++ "'"
  | unknownDataType uri => "unknown data type '" ++ uri ++ "'"
  | undefinedVariable policy id =>
    "undefined variable '" ++ id ++ "' in policy '" ++ policy ++ "'"
  | cyclicVariables path => "cyclic variable definitions: " ++ " -> ".intercalate path
  | duplicateRule policy rule => "duplicate rule id '" ++ rule ++ "' in policy '" ++ policy ++ "'"
  | duplicateVariable policy id =>
    "duplicate variable id '" ++ id ++ "' in policy '" ++ policy ++ "'"
  | malformed policy reason => "malformed policy '" ++ policy ++ "': " ++ reason.message
  | missingPolicy => "no root policy or policy set configured"

/-- A failure of either sort. -/
inductive Fault
  | evaluation (e : EvaluationError)
  | configuration (e : ConfigurationError)
  deriving Repr, DecidableEq

/-- The outcome of comparing a target, or a part of one, with a request. -/
inductive MatchResult
  | isMatch
  | noMatch
  | indeterminate (e : EvaluationError)
  deriving Repr, DecidableEq

def MatchResult.isIndeterminate : MatchResult → Bool
  | indeterminate _ => true
  | _ => false

end PolicyDecision
