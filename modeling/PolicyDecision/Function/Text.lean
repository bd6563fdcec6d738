import PolicyDecision.AttributeSource
import PolicyDecision.Function.Argument
import PolicyDecision.Pattern.Automaton
import PolicyDecision.Pattern.Reader
import PolicyDecision.Pattern.Search

/-! Texts: joining, cutting, searching, reading and writing of values, names and paths. -/

namespace PolicyDecision

/-- What a function can see besides its arguments. -/
structure FunctionContext where
  version : Version
  source : AttributeSource

/-- The category in which paths are counted. -/
def resourceCategory : String := "urn:oasis:names:tc:xacml:3.0:attribute-category:resource"

namespace StandardFunction

def callConcatenate (args : Arguments) : Outcome Evaluated := do
  args.expectAtLeast 2
  return .string (String.join (← (args.indicesFrom 0).mapM args.stringAt))

def callNormalizeSpace (args : Arguments) : Outcome Evaluated := do
  args.expectCount 1
  return .string (Text.trim (← args.stringAt 0))

def callNormalizeToLowerCase (args : Arguments) : Outcome Evaluated := do
  args.expectCount 1
  return .string (Text.lower (← args.stringAt 0))

def callOccurs (haystack : DataType) (position : Position) (args : Arguments) :
    Outcome Evaluated := do
  args.expectCount 2
  let needle := (← args.stringAt 0).toList
  let text := (← args.typedAt haystack 1).written.toList
  return .boolean <| match position with
    | .start => needle.isPrefixOf text
    | .finish => needle.isSuffixOf text
    | .anywhere => Text.occursIn needle text

/-- The characters from `start` up to `finish`, which may be -1 for the end of the text. -/
def substring? (text : List Char) (start finish : Int) : Option (List Char) :=
  let stop := if finish = -1 then (text.length : Int) else finish
  if 0 ≤ start ∧ start ≤ stop ∧ stop ≤ text.length then
    some ((text.take stop.toNat).drop start.toNat)
  else none

def callSubstring (type : DataType) (args : Arguments) : Outcome Evaluated := do
  args.expectCount 3
  let text := (← args.typedAt type 0).written.toList
  let start ← args.integerAt 1
  let finish ← args.integerAt 2
  match substring? text start finish with
  | some cs => return .string (String.ofList cs)
  | none => throw (.substringRange start finish text.length)

def callFromString (type : DataType) (args : Arguments) : Outcome Evaluated := do
  args.expectCount 1
  let text ← args.stringAt 0
  .value <$> (Value.read type text).mapError .lexical

def callToString (type : DataType) (args : Arguments) : Outcome Evaluated := do
  args.expectCount 1
  return .string (← args.typedAt type 0).written

/-- Looks for a regular expression in the written form of a value. -/
def callMatchesPattern (type : DataType) (args : Arguments) : Outcome Evaluated := do
  args.expectCount 2
  let pattern ← args.stringAt 0
  let subject ← args.typedAt type 1
  match Pattern.read? pattern with
  | some p =>
    if p.isTooLarge then throw (.patternTooLarge pattern Pattern.Automaton.limit)
    else return .boolean (p.foundIn subject.written)
  | none => throw (.invalidPattern pattern)

/-- Whether the first name is the end of the second. -/
def callX500NameMatch (args : Arguments) : Outcome Evaluated := do
  args.expectCount 2
  match ← args.typedAt .x500Name 0, ← args.typedAt .x500Name 1 with
  | .x500Name a, .x500Name b => return .boolean (a.endsIn b)
  | _, v => throw (.argument 1 (.value .x500Name) (.value v.type))

def callRfc822NameMatch (args : Arguments) : Outcome Evaluated := do
  args.expectCount 2
  let pattern ← args.stringAt 0
  match ← args.typedAt .rfc822Name 1 with
  | .rfc822Name name => return .boolean (name.matchesPattern pattern)
  | v => throw (.argument 1 (.value .rfc822Name) (.value v.type))

/-- The number of nodes that a path selects in the content of the resource. -/
def callNodeCount (context : FunctionContext) (args : Arguments) : Outcome Evaluated := do
  args.expectCount 1
  match ← args.valueAt 0 with
  | .string path =>
    let query : PathQuery := { version := context.version, path, category := resourceCategory }
    return .integer (← context.source.select query).length
  | v => throw (.pathNotString v.type)

end StandardFunction

end PolicyDecision
