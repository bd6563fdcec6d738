/-! Effects, decisions and the versions of the policy language. -/

namespace PolicyDecision

inductive Effect
  | permit
  | deny
  deriving Repr, DecidableEq

/-- The three extended indeterminate decisions of version 3.0 say which effect the failed
evaluation could have had. -/
inductive Decision
  | permit
  | deny
  | notApplicable
  | indeterminate
  | indeterminateD
  | indeterminateP
  | indeterminateDP
  deriving Repr, DecidableEq

namespace Effect

def decision : Effect → Decision
  | permit => .permit
  | deny => .deny

/-- The decision of a failure that could only have had this effect. -/
def indeterminate : Effect → Decision
  | permit => .indeterminateP
  | deny => .indeterminateD

def opposite : Effect → Effect
  | permit => deny
  | deny => permit

def name : Effect → String
  | permit => "Permit"
  | deny => "Deny"

end Effect

namespace Decision

def all : List Decision :=
  [permit, deny, notApplicable, indeterminate, indeterminateD, indeterminateP, indeterminateDP]

def isIndeterminate : Decision → Bool
  | indeterminate | indeterminateD | indeterminateP | indeterminateDP => true
  | _ => false

def effect? : Decision → Option Effect
  | permit => some .permit
  | deny => some .deny
  | _ => none

/-- Forgets which effect an indeterminate decision could have had. -/
def toLegacy (d : Decision) : Decision := if d.isIndeterminate then indeterminate else d

/-- The decision with the two effects exchanged. -/
def opposite : Decision → Decision
  | permit => deny
  | deny => permit
  | indeterminateD => indeterminateP
  | indeterminateP => indeterminateD
  | d => d

/-- The decision of a node whose own target could not be evaluated. -/
def promoted : Decision → Decision
  | permit => indeterminateP
  | deny => indeterminateD
  | indeterminate => indeterminateDP
  | d => d

def name : Decision → String
  | permit => "Permit"
  | deny => "Deny"
  | notApplicable => "NotApplicable"
  | indeterminate => "Indeterminate"
  | indeterminateD => "Indeterminate\x7bD\x7d"
  | indeterminateP => "Indeterminate\x7bP\x7d"
  | indeterminateDP => "Indeterminate\x7bDP\x7d"

end Decision

inductive Version
  | v1_0
  | v1_1
  | v2_0
  | v3_0
  deriving Repr, DecidableEq

namespace Version

def all : List Version := [v1_0, v1_1, v2_0, v3_0]

/-- Whether indeterminate decisions are told apart. -/
def isExtended (v : Version) : Bool := v == v3_0

def name : Version → String
  | v1_0 => "1.0"
  | v1_1 => "1.1"
  | v2_0 => "2.0"
  | v3_0 => "3.0"

/-- The decision of a failure. `possible` is the only effect that it could have had, if it could
not have had both. -/
def indeterminate (v : Version) (possible : Option Effect) : Decision :=
  if v.isExtended then (possible.map Effect.indeterminate).getD .indeterminateDP
  else .indeterminate

/-- Before version 3.0 the indeterminate decisions are not told apart. -/
def shown (v : Version) (d : Decision) : Decision := if v.isExtended then d else d.toLegacy

end Version

end PolicyDecision
