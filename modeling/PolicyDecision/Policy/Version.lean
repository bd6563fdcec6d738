import PolicyDecision.Lexical.Error
import PolicyDecision.Lexical.Reader

/-! Versions of policies, patterns of versions, and the constraints of a reference. -/

namespace PolicyDecision

/-- The numbers between the points. -/
abbrev VersionNumber := List Nat

inductive VersionComponent
  | exact (n : Nat)
  /-- Any one number. -/
  | any
  /-- Any numbers up to the end. -/
  | rest
  deriving Repr, DecidableEq

abbrev VersionPattern := List VersionComponent

namespace VersionNumber

def read (text : String) : Except Lexical.Error VersionNumber :=
  let reader := Lexical.Reader.separated '.' Lexical.Reader.natural
  match reader.whole? (Text.trimmed text.toList) with
  | some v => .ok v
  | none => .error (.flawed .version text .ungrammatical)

/-- Number by number; a version that continues another is later. -/
def compare : VersionNumber → VersionNumber → Ordering
  | [], [] => .eq
  | [], _ :: _ => .lt
  | _ :: _, [] => .gt
  | m :: v, n :: w => (Ord.compare m n).then (compare v w)

end VersionNumber

namespace VersionPattern

open Lexical.Reader in
def component : Lexical.Reader VersionComponent :=
  (do char '*'; return .any) <|> (do char '+'; return .rest) <|>
    (do return .exact (← natural))

def read (text : String) : Except Lexical.Error VersionPattern :=
  let reader := Lexical.Reader.separated '.' component
  match reader.whole? (Text.trimmed text.toList) with
  | some p => .ok p
  | none => .error (.flawed .versionPattern text .ungrammatical)

/-- How a version lies to a pattern; `.eq` means that it matches. -/
def position : VersionPattern → VersionNumber → Ordering
  | [], [] => .eq
  | [], _ :: _ => .gt
  | .rest :: _, _ => .eq
  | _ :: _, [] => .lt
  | .any :: p, _ :: v => position p v
  | .exact n :: p, m :: v => (Ord.compare m n).then (position p v)

end VersionPattern

/-- The patterns are kept as text. One that cannot be read admits no version. -/
structure VersionConstraints where
  version : Option String := none
  earliest : Option String := none
  latest : Option String := none
  deriving Repr, DecidableEq

namespace VersionConstraints

def patterns (c : VersionConstraints) : List String :=
  [c.version, c.earliest, c.latest].filterMap id

def admits (accepted : Ordering → Bool) (pattern : Option String) (v : VersionNumber) : Bool :=
  match pattern with
  | none => true
  | some text =>
    match VersionPattern.read text with
    | .ok p => accepted (p.position v)
    | .error _ => false

def matchesNumber (c : VersionConstraints) (v : VersionNumber) : Bool :=
  admits (· == .eq) c.version v && admits (· != .lt) c.earliest v && admits (· != .gt) c.latest v

/-- A version that cannot be read matches nothing. -/
def matchesVersion (c : VersionConstraints) (version : String) : Bool :=
  match VersionNumber.read version with
  | .ok v => c.matchesNumber v
  | .error _ => false

end VersionConstraints

end PolicyDecision
