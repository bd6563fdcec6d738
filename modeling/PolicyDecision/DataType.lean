/-! The types of attribute values and the URIs that name them. -/

namespace PolicyDecision

inductive DataType
  | string
  | boolean
  | integer
  | double
  | date
  | time
  | dateTime
  | dayTimeDuration
  | yearMonthDuration
  | anyURI
  | hexBinary
  | base64Binary
  | rfc822Name
  | x500Name
  deriving Repr, DecidableEq

namespace DataType

def all : List DataType :=
  [string, boolean, integer, double, date, time, dateTime, dayTimeDuration, yearMonthDuration,
    anyURI, hexBinary, base64Binary, rfc822Name, x500Name]

theorem mem_all (t : DataType) : t ∈ all := by cases t <;> decide

/-- The last part of the URI, which is also the first part of the names of the type's functions. -/
def shortName : DataType → String
  | string => "string"
  | boolean => "boolean"
  | integer => "integer"
  | double => "double"
  | date => "date"
  | time => "time"
  | dateTime => "dateTime"
  | dayTimeDuration => "dayTimeDuration"
  | yearMonthDuration => "yearMonthDuration"
  | anyURI => "anyURI"
  | hexBinary => "hexBinary"
  | base64Binary => "base64Binary"
  | rfc822Name => "rfc822Name"
  | x500Name => "x500Name"

def schemaNamespace : String := "http://www.w3.org/2001/XMLSchema#"

def nameNamespace : String := "urn:oasis:names:tc:xacml:1.0:data-type:"

/-- The namespace of the two durations before version 3.0. -/
def queryNamespace : String := "http://www.w3.org/TR/2002/WD-xquery-operators-20020816#"

/-- The URI of the type in version 3.0. -/
def uri (t : DataType) : String :=
  match t with
  | rfc822Name | x500Name => nameNamespace ++ t.shortName
  | _ => schemaNamespace ++ t.shortName

def isDuration : DataType → Bool
  | dayTimeDuration | yearMonthDuration => true
  | _ => false

/-- Every URI that names the type, the one of version 3.0 first. -/
def uris (t : DataType) : List String :=
  if t.isDuration then [t.uri, queryNamespace ++ t.shortName] else [t.uri]

def ofUri? (uri : String) : Option DataType := all.find? fun t => t.uris.contains uri

/-- Whether the values are ordered for the functions of the `greater-than` family. -/
def isOrdered : DataType → Bool
  | string | integer | double | date | time | dateTime => true
  | _ => false

end DataType

end PolicyDecision
