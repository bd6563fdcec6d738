import PolicyDecision.Decision
import PolicyDecision.Expression

/-! Requests, and requests as sources of attribute values. -/

namespace PolicyDecision

structure Attribute where
  attributeId : String
  issuer : Option String := none
  dataType : String
  values : List String
  includeInResult : Bool := false
  deriving Repr, DecidableEq

def Attribute.ofLiteral (attributeId : String) (l : Literal) : Attribute :=
  { attributeId, dataType := l.dataType, values := [l.text] }

structure Block where
  category : String
  id : Option String := none
  attributes : List Attribute := []
  deriving Repr, DecidableEq

structure Request where
  version : Version
  blocks : List Block := []
  returnPolicyIds : Bool := false
  combinedDecision : Bool := false
  /-- Each individual request as the ids of its blocks. -/
  references : List (List String) := []
  deriving Repr, DecidableEq

namespace Request

def addBlock (r : Request) (b : Block) : Request := { r with blocks := r.blocks ++ [b] }

/-- Puts an attribute into the first block of its category, or into a new block at the end. -/
def insertAttribute (category : String) (a : Attribute) : List Block → List Block
  | [] => [{ category, attributes := [a] }]
  | b :: bs =>
    if b.category = category then { b with attributes := b.attributes ++ [a] } :: bs
    else b :: insertAttribute category a bs

def addAttribute (r : Request) (category : String) (a : Attribute) : Request :=
  { r with blocks := insertAttribute category a r.blocks }

def blocksOf (r : Request) (category : String) : List Block :=
  r.blocks.filter (·.category == category)

end Request

/-! Requests as sources of attribute values. -/

/-- Two URIs of one type are the same, other URIs only if they are equal. -/
def sameTypeUri (a b : String) : Bool :=
  match DataType.ofUri? a, DataType.ofUri? b with
  | some s, some t => s == t
  | _, _ => a == b

/-- An attribute answers a question with its own id and type, and with its own issuer if the
question names one. -/
def Attribute.answers (a : Attribute) (q : AttributeQuery) : Bool :=
  a.attributeId == q.attributeId && sameTypeUri a.dataType q.dataType &&
    (q.issuer.isNone || a.issuer == q.issuer)

namespace Request

/-- The values of all attributes that answer a question, in the order of the request. -/
def valuesFor (r : Request) (q : AttributeQuery) : List String :=
  (((r.blocksOf q.category).flatMap Block.attributes).filter (·.answers q)).flatMap
    Attribute.values

/-- The request, and another source for what the request does not carry and for all paths. -/
def source (r : Request) (fallback : Option AttributeSource) : AttributeSource :=
  match fallback with
  | none => { values := fun q => .ok (r.valuesFor q) }
  | some other =>
    { values := fun q =>
        match r.valuesFor q with
        | [] => other.values q
        | found => .ok found
      select := other.select }

end Request

end PolicyDecision
