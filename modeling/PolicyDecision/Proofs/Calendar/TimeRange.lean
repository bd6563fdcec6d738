import PolicyDecision.Proofs.Function.Argument
import PolicyDecision.Proofs.Function.Registry
import PolicyDecision.Proofs.Termination.Function

/-! Ranges of times as arcs of the circle that a day is. A time lies on the arc if one comes to it
from the start no later than to the end. -/

namespace PolicyDecision

open Calendar

namespace Calendar.Time

variable {t start finish : Time}

lemma nanosPerDay_eq : nanosPerDay = 86400000000000 := rfl

lemma utcNanosOfDay_mem (t : Time) : 0 ≤ t.utcNanosOfDay ∧ t.utcNanosOfDay < nanosPerDay :=
  ⟨Int.emod_nonneg _ (by decide), Int.emod_lt_of_pos _ (by decide)⟩

lemma inRange_iff : t.inRange start finish = true ↔
    (t.utcNanosOfDay - start.utcNanosOfDay) % nanosPerDay ≤
      (finish.utcNanosOfDay - start.utcNanosOfDay) % nanosPerDay := by
  have ht := t.utcNanosOfDay_mem
  have hstart := start.utcNanosOfDay_mem
  have hfinish := finish.utcNanosOfDay_mem
  rw [nanosPerDay_eq] at *
  simp only [inRange]
  split
  case isTrue hle =>
    rw [Bool.and_eq_true, decide_eq_true_iff, decide_eq_true_iff]
    omega
  case isFalse hlt =>
    rw [Bool.or_eq_true, decide_eq_true_iff, decide_eq_true_iff]
    omega

/-- The same reading of the clock in another time zone. -/
def inZone (t : Time) (offset : Offset) : Time := { t with offset := offset }

/-- In one time zone the way from one time to another is that between the readings of the clock. -/
lemma sub_inZone (t start : Time) (offset : Offset) :
    ((t.inZone offset).utcNanosOfDay - (start.inZone offset).utcNanosOfDay) % nanosPerDay =
      (t.nanosOfDay - start.nanosOfDay) % nanosPerDay := by
  have hshift : t.nanosOfDay - offset.nanos - (start.nanosOfDay - offset.nanos) =
      t.nanosOfDay - start.nanosOfDay := by omega
  rw [← hshift]
  exact (Int.sub_emod _ _ _).symm

lemma inRange_inZone (t start finish : Time) (offset offset' : Offset) :
    (t.inZone offset).inRange (start.inZone offset) (finish.inZone offset) =
      (t.inZone offset').inRange (start.inZone offset') (finish.inZone offset') := by
  rw [Bool.eq_iff_iff, inRange_iff, inRange_iff]
  simp only [sub_inZone]

/-- Two arcs with the same ends make up the circle. -/
lemma inRange_or_inRange (h : start.utcNanosOfDay ≠ finish.utcNanosOfDay) :
    t.inRange start finish = true ∨ t.inRange finish start = true := by
  have ht := t.utcNanosOfDay_mem
  have hstart := start.utcNanosOfDay_mem
  have hfinish := finish.utcNanosOfDay_mem
  rw [inRange_iff, inRange_iff]
  rw [nanosPerDay_eq] at *
  omega

end Calendar.Time

namespace FunctionRegistry

open StandardFunction

variable (r : FunctionRegistry) (context : FunctionContext) (uri : String)

/-- The outcome of the function that compares a time with a range. -/
def timeInRange (t start finish : Time) : Outcome Evaluated :=
  r.call context ⟨uri, .standard .timeInRange⟩
    [.value (.time t), .value (.time start), .value (.time finish)]

lemma timeInRange_eq (t start finish : Time) :
    r.timeInRange context uri t start finish = .ok (.boolean (t.inRange start finish)) := by
  rw [timeInRange, call_standard]
  rfl

/-- A time is in a range if the range is at least as long as the way from its start to the time. So
only the ways between the times matter, and not the time zone that all of them have. A time outside
a range is in that from the end to the start. -/
theorem timeInRange_arc (t start finish : Time) :
    standard.require (namespace2 ++ "time-in-range") =
      .ok ⟨namespace2 ++ "time-in-range", .standard .timeInRange⟩ ∧
    (r.timeInRange context uri t start finish).Tells
      ((t.utcNanosOfDay - start.utcNanosOfDay) % nanosPerDay ≤
        (finish.utcNanosOfDay - start.utcNanosOfDay) % nanosPerDay) ∧
    (∀ offset offset' : Offset,
      r.timeInRange context uri (t.inZone offset) (start.inZone offset) (finish.inZone offset) =
        r.timeInRange context uri (t.inZone offset') (start.inZone offset')
          (finish.inZone offset')) ∧
    (start.utcNanosOfDay ≠ finish.utcNanosOfDay →
      r.timeInRange context uri t start finish = .ok (.boolean true) ∨
        r.timeInRange context uri t finish start = .ok (.boolean true)) := by
  refine ⟨require_standard (comparison_mem List.mem_cons_self),
    ⟨_, r.timeInRange_eq context uri t start finish, Time.inRange_iff⟩, fun offset offset' => ?_,
    fun hends => ?_⟩
  · rw [timeInRange_eq, timeInRange_eq, Time.inRange_inZone]
  · rw [timeInRange_eq, timeInRange_eq]
    exact (Time.inRange_or_inRange hends).imp (fun h => by rw [h]) (fun h => by rw [h])

/-- The range runs over midnight in UTC, and starts and ends by daylight on the clocks. -/
theorem timeInRange_arc_midnight :
    Time.utcNanosOfDay ⟨8, 0, 0, 0, some (-840)⟩ ≠ Time.utcNanosOfDay ⟨16, 0, 0, 0, some 840⟩ ∧
    standard.timeInRange .blank "" ⟨12, 0, 0, 0, none⟩ ⟨8, 0, 0, 0, some (-840)⟩
      ⟨16, 0, 0, 0, some 840⟩ = .ok (.boolean false) ∧
    standard.timeInRange .blank "" ⟨12, 0, 0, 0, none⟩ ⟨16, 0, 0, 0, some 840⟩
      ⟨8, 0, 0, 0, some (-840)⟩ = .ok (.boolean true) := by
  have hends : Time.utcNanosOfDay ⟨8, 0, 0, 0, some (-840)⟩ ≠
      Time.utcNanosOfDay ⟨16, 0, 0, 0, some 840⟩ := by decide
  have houtside : standard.timeInRange .blank "" ⟨12, 0, 0, 0, none⟩ ⟨8, 0, 0, 0, some (-840)⟩
      ⟨16, 0, 0, 0, some 840⟩ = .ok (.boolean false) := rfl
  obtain ⟨-, -, -, heither⟩ := timeInRange_arc standard .blank "" ⟨12, 0, 0, 0, none⟩
    ⟨8, 0, 0, 0, some (-840)⟩ ⟨16, 0, 0, 0, some 840⟩
  refine ⟨hends, houtside, (heither hends).resolve_left ?_⟩
  rw [houtside]
  intro h
  cases h

end FunctionRegistry

end PolicyDecision
