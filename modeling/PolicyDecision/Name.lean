import PolicyDecision.Lexical.Error
import PolicyDecision.Text.Case
import PolicyDecision.Text.Split

/-! Distinguished names and mail addresses. A distinguished name is a sequence of attribute types with
their values, compared without regard to case and to white space around them. -/

namespace PolicyDecision

structure RelativeName where
  type : String
  value : String
  deriving Repr, DecidableEq

/-- The text is kept for printing; comparison looks at the parts only. -/
structure X500Name where
  text : String
  parts : List RelativeName
  deriving Repr, DecidableEq

namespace X500Name

def readPart (part : List Char) : Except Lexical.Flaw RelativeName :=
  match Text.splitFirst '=' part with
  | none => .error .noAttributeValue
  | some (type, value) =>
    let type := Text.trimmed type
    if type.isEmpty then .error .noAttributeType
    else
      .ok ⟨Text.asciiLower (String.ofList type), Text.lower (String.ofList (Text.trimmed value))⟩

def read (text : String) : Except Lexical.Error X500Name :=
  match (Text.splitAll ',' text.toList).mapM readPart with
  | .ok parts => .ok ⟨Text.trim text, parts⟩
  | .error flaw => .error (.flawed (.value .x500Name) text flaw)

def same (a b : X500Name) : Bool := a.parts == b.parts

/-- Whether the parts of `a` are the last parts of `b`. -/
def endsIn (a b : X500Name) : Bool := a.parts.isSuffixOf b.parts

end X500Name

/-! Mail addresses. The part before the last `@` is compared letter by letter, the domain up to
the case of A to Z. -/

structure Rfc822Name where
  localPart : String
  domain : String
  deriving Repr, DecidableEq

namespace Rfc822Name

def ofParts? (before after : List Char) : Option Rfc822Name :=
  if before.isEmpty || after.isEmpty then none
  else some ⟨String.ofList before, String.ofList after⟩

/-- A refused text is shown without the white space around it. -/
def read (text : String) : Except Lexical.Error Rfc822Name :=
  let inner := Text.trimmed text.toList
  match (Text.splitLast '@' inner).bind fun (before, after) => ofParts? before after with
  | some name => .ok name
  | none => .error (.flawed (.value .rfc822Name) (String.ofList inner) .noDomain)

def same (a b : Rfc822Name) : Bool :=
  a.localPart == b.localPart && Text.sameIgnoringAsciiCase a.domain b.domain

def written (name : Rfc822Name) : String := name.localPart ++ "@" ++ name.domain

/-- A pattern is a full address, a domain, or an ending of a domain that begins with a point. -/
def matchesPattern (name : Rfc822Name) (pattern : String) : Bool :=
  match Text.splitLast '@' pattern.toList with
  | some (before, after) =>
    String.ofList before == name.localPart &&
      Text.sameIgnoringAsciiCase (String.ofList after) name.domain
  | none =>
    if pattern.toList.head? = some '.' then
      (Text.asciiLower pattern).toList.isSuffixOf (Text.asciiLower name.domain).toList
    else Text.sameIgnoringAsciiCase pattern name.domain

end Rfc822Name

end PolicyDecision
