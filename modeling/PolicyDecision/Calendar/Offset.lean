import PolicyDecision.Lexical.Error

/-! Time zones as minutes east of UTC. A value without a time zone is taken to be in UTC. -/

namespace PolicyDecision.Calendar

abbrev Offset := Option Int

def nanosPerSecond : Int := 1000000000

def nanosPerDay : Int := 86400 * nanosPerSecond

def greatestOffset : Nat := 14 * 60

def Offset.Valid (offset : Offset) : Prop := ∀ minutes ∈ offset, minutes.natAbs ≤ greatestOffset

def Offset.check (offset : Offset) : Except Lexical.Error Unit :=
  match offset with
  | some minutes =>
    if greatestOffset < minutes.natAbs then .error (.offset minutes) else .ok ()
  | none => .ok ()

def Offset.nanos (offset : Offset) : Int := offset.getD 0 * 60 * nanosPerSecond

/-- UTC is written by a letter, every other zone by its sign, hours and minutes. -/
def Offset.written : Offset → List Char
  | none => []
  | some minutes =>
    if minutes = 0 then ['Z']
    else
      (if minutes < 0 then '-' else '+') :: Decimal.padded 2 (minutes.natAbs / 60) ++
        ':' :: Decimal.padded 2 (minutes.natAbs % 60)

end PolicyDecision.Calendar
