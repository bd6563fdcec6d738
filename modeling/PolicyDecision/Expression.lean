import PolicyDecision.AttributeSource
import PolicyDecision.Text.Printable
import PolicyDecision.Value

/-! Expressions of conditions, variables and obligations. -/

namespace PolicyDecision

/-- A value in its lexical form, under the URI of its type. -/
structure Literal where
  dataType : String
  text : String
  deriving Repr, DecidableEq

namespace Literal

def ofValue (v : Value) : Literal := ⟨v.type.uri, v.written⟩

/-- An unknown type is an error of the configuration, a text that is not of its type is one of the
evaluation. -/
def resolve (l : Literal) : Except Fault Value :=
  match DataType.ofUri? l.dataType with
  | none => .error (.configuration (.unknownDataType l.dataType))
  | some type => (Value.read type l.text).mapError fun e => .evaluation (.lexical e)

end Literal

/-- Asks for an attribute by its name. -/
structure Designator where
  category : String
  attributeId : String
  dataType : String
  issuer : Option String := none
  mustBePresent : Bool := false
  deriving Repr, DecidableEq

/-- Asks for the values that a path selects. -/
structure Selector where
  category : String
  path : String
  dataType : String
  contextSelector : Option String := none
  mustBePresent : Bool := false
  namespaces : List Namespace := []
  deriving Repr, DecidableEq

inductive Expression
  | literal (l : Literal)
  | designator (d : Designator)
  | selector (s : Selector)
  | variableRef (id : String)
  | function (uri : String)
  | apply (function : String) (arguments : List Expression)

namespace Expression

/-- What follows the last colon or number sign of a URI. -/
def shortUri (uri : String) : String :=
  String.ofList (uri.toList.reverse.takeWhile fun c => c != ':' && c != '#').reverse

mutual

/-- A short text for people. -/
def written : Expression → String
  | literal l => Text.quoted l.text ++ ":" ++ shortUri l.dataType
  | designator d => "$" ++ shortUri d.attributeId
  | selector s => "$\x7b" ++ s.path ++ "\x7d"
  | variableRef id => "var(" ++ id ++ ")"
  | function uri => "&" ++ shortUri uri
  | apply f args => shortUri f ++ "(" ++ ", ".intercalate (writtenAll args) ++ ")"

def writtenAll : List Expression → List String
  | [] => []
  | e :: es => e.written :: writtenAll es

end

mutual

/-- The variables that an expression mentions, in the order of the text. -/
def mentions : Expression → List String
  | variableRef id => [id]
  | apply _ args => mentionsAll args
  | _ => []

def mentionsAll : List Expression → List String
  | [] => []
  | e :: es => e.mentions ++ mentionsAll es

end

end Expression

end PolicyDecision
