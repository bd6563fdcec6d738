import PolicyDecision.Proofs.Calendar.DateGrammar
import PolicyDecision.Proofs.Calendar.Duration

/-! The texts of durations. Every component may be missing, but not all of them, and a letter that
opens the time has one after it. Components share the number in front, and so a component is known
to be missing only by the letter that comes after a number. -/

namespace PolicyDecision.Calendar

open Lexical Lexical.Reader

/-- Seconds, which alone may have a fraction. -/
inductive SecondsText : Grammar Reader.Seconds
  | intro {ds fs : List Char} {n : ℕ} {fraction : Option ℕ} (h : Numeral ds n)
    (hfraction : Optional FractionText fs fraction) :
    SecondsText (ds ++ (fs ++ ['S'])) ⟨n, fraction.getD 0⟩

inductive TimeComponentsText : Grammar Reader.TimeComponents
  | intro {hs ms ss : List Char} {hours minutes : Option ℕ} {seconds : Option Reader.Seconds}
    (hhours : Optional (ComponentText 'H') hs hours)
    (hminutes : Optional (ComponentText 'M') ms minutes)
    (hseconds : Optional SecondsText ss seconds) :
    TimeComponentsText ('T' :: (hs ++ (ms ++ ss))) ⟨hours, minutes, seconds⟩

inductive DayTimeComponentsText : Grammar Reader.DayTimeComponents
  | intro {ds ts : List Char} {days : Option ℕ} {time : Option Reader.TimeComponents}
    (negative : Bool) (hdays : Optional (ComponentText 'D') ds days)
    (htime : Optional TimeComponentsText ts time) :
    DayTimeComponentsText (minus negative ++ 'P' :: (ds ++ ts)) ⟨negative, days, time⟩

inductive YearMonthComponentsText : Grammar Reader.YearMonthComponents
  | intro {ys ms : List Char} {years months : Option ℕ} (negative : Bool)
    (hyears : Optional (ComponentText 'Y') ys years)
    (hmonths : Optional (ComponentText 'M') ms months) :
    YearMonthComponentsText (minus negative ++ 'P' :: (ys ++ ms)) ⟨negative, years, months⟩

namespace Reader

variable {cs rest w : List Char} {designator other : Char} {o : Option ℕ}

/-- A component of another letter, if there is one, does not change that none is read. -/
lemma numbered_of_component (hw : Optional (ComponentText other) w o)
    (hother : other.isDigit = false) (hne : other ≠ designator)
    (hrest : numbered designator rest = none) : numbered designator (w ++ rest) = none := by
  cases hw with
  | missing => exact hrest
  | present hw =>
    obtain ⟨hds⟩ := hw
    rw [List.append_assoc, List.singleton_append]
    exact numbered_of_other hds hother hne

/-- After whole seconds comes a point or their letter. -/
lemma numbered_of_seconds {s : Option Seconds} (hw : Optional SecondsText w s)
    (hpoint : '.' ≠ designator) (hletter : 'S' ≠ designator) :
    numbered designator w = none := by
  cases hw with
  | missing => rfl
  | present hw =>
    obtain ⟨hds, hfraction⟩ := hw
    cases hfraction with
    | missing => exact numbered_of_other hds (by decide) hletter
    | present hfraction =>
      obtain ⟨-, -⟩ := hfraction
      exact numbered_of_other hds (by decide) hpoint

/-- Seconds that are not missing. -/
def numberedSeconds : Lexical.Reader Seconds := do
  let n ← natural
  let fraction ← maybe nanos
  char 'S'
  return ⟨n, fraction.getD 0⟩

lemma reads_numberedSeconds : Reads numberedSeconds SecondsText fun _ => True where
  sound := by
    intro cs s rest hread
    obtain ⟨n, cs₁, hn, h₁⟩ := bind_eq_some hread
    obtain ⟨fraction, cs₂, hfraction, h₂⟩ := bind_eq_some h₁
    obtain ⟨_, cs₃, hletter, h₃⟩ := bind_eq_some h₂
    cases h₃
    obtain ⟨ds, hds, rfl⟩ := reads_natural.sound hn
    obtain ⟨fs, hfs, rfl⟩ := (reads_maybe reads_nanos).sound hfraction
    obtain rfl := char_eq_some hletter
    exact ⟨_, .intro hds hfs, by simp⟩
  complete := by
    rintro _ _ rest ⟨hds, hfs⟩ -
    rename_i ds fs n fraction
    have hends : EndsNumber (fs ++ 'S' :: rest) := by
      cases hfs with
      | missing => rfl
      | present h =>
        obtain ⟨-, -⟩ := h
        rfl
    rw [List.append_assoc, List.append_assoc, List.singleton_append, numberedSeconds,
      bind_of_eq (reads_natural.complete hds hends),
      bind_of_eq ((reads_maybe reads_nanos).complete hfs ⟨rfl, rfl⟩),
      bind_of_eq (char_cons 'S' rest)]
    rfl

lemma reads_component (h : designator.isDigit = false) :
    Reads (component designator) (Optional (ComponentText designator))
      fun rest => numbered designator rest = none where
  sound := (reads_maybe (reads_numbered h)).sound
  complete hw hrest := (reads_maybe (reads_numbered h)).complete hw ⟨trivial, hrest⟩

theorem reads_timeComponents : Reads timeComponents TimeComponentsText (· = []) where
  sound := by
    intro cs t rest h
    obtain ⟨_, cs₁, hletter, h₁⟩ := bind_eq_some h
    obtain ⟨hours, cs₂, hhours, h₂⟩ := bind_eq_some h₁
    obtain ⟨minutes, cs₃, hminutes, h₃⟩ := bind_eq_some h₂
    obtain ⟨seconds, cs₄, hseconds, h₄⟩ := bind_eq_some h₃
    cases h₄
    obtain rfl := char_eq_some hletter
    obtain ⟨hs, hhs, rfl⟩ := (reads_component (by decide)).sound hhours
    obtain ⟨ms, hms, rfl⟩ := (reads_component (by decide)).sound hminutes
    obtain ⟨ss, hss, rfl⟩ := (reads_maybe reads_numberedSeconds).sound hseconds
    exact ⟨_, .intro hhs hms hss, by simp⟩
  complete := by
    rintro _ _ _ ⟨hhours, hminutes, hseconds⟩ rfl
    rename_i hs ms ss hours minutes seconds
    have hnoMinutes : numbered 'M' ss = none := numbered_of_seconds hseconds (by decide) (by decide)
    have hnoHours : numbered 'H' (ms ++ ss) = none :=
      numbered_of_component hminutes (by decide) (by decide)
        (numbered_of_seconds hseconds (by decide) (by decide))
    have hsecond : Reader.seconds (ss ++ []) = some (seconds, []) :=
      (reads_maybe reads_numberedSeconds).complete hseconds ⟨trivial, rfl⟩
    rw [List.append_nil] at hsecond ⊢
    rw [timeComponents, bind_of_eq (char_cons 'T' _),
      bind_of_eq ((reads_component (by decide)).complete hhours hnoHours),
      bind_of_eq ((reads_component (by decide)).complete hminutes hnoMinutes), bind_of_eq hsecond]
    rfl

theorem reads_dayTimeDuration : Reads dayTimeDuration DayTimeComponentsText (· = []) where
  sound := by
    intro cs c rest h
    obtain ⟨o, cs₁, hminus, h₁⟩ := bind_eq_some h
    obtain ⟨_, cs₂, hletter, h₂⟩ := bind_eq_some h₁
    obtain ⟨days, cs₃, hdays, h₃⟩ := bind_eq_some h₂
    obtain ⟨time, cs₄, htime, h₄⟩ := bind_eq_some h₃
    cases h₄
    obtain rfl := maybe_minus_eq_some hminus
    obtain rfl := char_eq_some hletter
    obtain ⟨ds, hds, rfl⟩ := (reads_component (by decide)).sound hdays
    obtain ⟨ts, hts, rfl⟩ := (reads_maybe reads_timeComponents).sound htime
    exact ⟨_, .intro o.isSome hds hts, by simp⟩
  complete := by
    rintro _ _ _ ⟨negative, hdays, htime⟩ rfl
    rename_i ds ts days time
    have hletter : char '-' ('P' :: (ds ++ ts)) = none := char_eq_none (by simp)
    obtain ⟨o, rfl, hminus⟩ := exists_maybe_minus negative hletter
    have hnoDays : numbered 'D' ts = none := by
      cases htime with
      | missing => rfl
      | present h =>
        obtain ⟨-, -, -⟩ := h
        exact numbered_of_ends rfl
    have htimes : maybe timeComponents (ts ++ []) = some (time, []) :=
      (reads_maybe reads_timeComponents).complete htime ⟨rfl, rfl⟩
    rw [List.append_nil] at htimes ⊢
    rw [dayTimeDuration, bind_of_eq hminus, bind_of_eq (char_cons 'P' _),
      bind_of_eq ((reads_component (by decide)).complete hdays hnoDays), bind_of_eq htimes]
    rfl

theorem reads_yearMonthDuration : Reads yearMonthDuration YearMonthComponentsText (· = []) where
  sound := by
    intro cs c rest h
    obtain ⟨o, cs₁, hminus, h₁⟩ := bind_eq_some h
    obtain ⟨_, cs₂, hletter, h₂⟩ := bind_eq_some h₁
    obtain ⟨years, cs₃, hyears, h₃⟩ := bind_eq_some h₂
    obtain ⟨months, cs₄, hmonths, h₄⟩ := bind_eq_some h₃
    cases h₄
    obtain rfl := maybe_minus_eq_some hminus
    obtain rfl := char_eq_some hletter
    obtain ⟨ys, hys, rfl⟩ := (reads_component (by decide)).sound hyears
    obtain ⟨ms, hms, rfl⟩ := (reads_component (by decide)).sound hmonths
    exact ⟨_, .intro o.isSome hys hms, by simp⟩
  complete := by
    rintro _ _ _ ⟨negative, hyears, hmonths⟩ rfl
    rename_i ys ms years months
    have hletter : char '-' ('P' :: (ys ++ ms)) = none := char_eq_none (by simp)
    obtain ⟨o, rfl, hminus⟩ := exists_maybe_minus negative hletter
    have hnoYears : numbered 'Y' (ms ++ []) = none :=
      numbered_of_component hmonths (by decide) (by decide) rfl
    have hmonth : component 'M' (ms ++ []) = some (months, []) :=
      (reads_component (by decide)).complete hmonths rfl
    rw [List.append_nil] at hnoYears hmonth ⊢
    rw [yearMonthDuration, bind_of_eq hminus, bind_of_eq (char_cons 'P' _),
      bind_of_eq ((reads_component (by decide)).complete hyears hnoYears), bind_of_eq hmonth]
    rfl

/-- The exact sum in nanoseconds. What is missing counts for nothing. -/
def DayTimeComponents.sum (c : DayTimeComponents) : ℕ :=
  c.days.elim 0 (· * 86400000000000) + c.time.elim 0 fun t =>
    t.hours.elim 0 (· * 3600000000000) + t.minutes.elim 0 (· * 60000000000) +
      t.seconds.elim 0 fun s => s.whole * 1000000000 + s.nanos

lemma elim_mul (o : Option ℕ) (k : ℕ) : o.elim 0 (· * k) = o.getD 0 * k := by
  cases o with
  | none => exact (Nat.zero_mul k).symm
  | some n => rfl

lemma DayTimeComponents.nanos_eq_sum (c : DayTimeComponents) : c.nanos = c.sum := by
  obtain ⟨negative, days, time⟩ := c
  cases time with
  | none =>
    simp only [nanos, sum, elim_mul, Option.getD_none, Option.elim_none]
    omega
  | some t =>
    obtain ⟨hours, minutes, seconds⟩ := t
    simp only [nanos, sum, elim_mul, Option.getD_some, Option.elim_some]
    cases seconds with
    | none =>
      simp only [Option.getD_none, Option.elim_none]
      omega
    | some s =>
      simp only [Option.getD_some, Option.elim_some]
      omega

lemma YearMonthComponents.total_eq (c : YearMonthComponents) :
    c.total = 12 * c.years.getD 0 + c.months.getD 0 := by
  rw [total, Nat.mul_comm]

/-- A number as a signed word of 128 bits, if it is one. -/
def longWord? (n : ℤ) : Option ℤ :=
  if -(Nat.pow 2 127 : ℤ) ≤ n ∧ n < Nat.pow 2 127 then some n else none

lemma longWord?_of_natAbs_lt {n : ℤ} (h : n.natAbs < 170141183460469231731687303715884105728) :
    longWord? n = some n := by
  have hlimit : Nat.pow 2 127 = 170141183460469231731687303715884105728 := rfl
  exact if_pos (by omega)

lemma longWord?_bind {α : Type} {n : ℤ} {f : ℤ → Option α}
    (h : n.natAbs < 170141183460469231731687303715884105728) : (longWord? n >>= f) = f n := by
  rw [longWord?_of_natAbs_lt h]
  rfl

/-- The sum as words of 128 bits, step by step; nothing if a step is not one. -/
def DayTimeComponents.sumOfWords? (c : DayTimeComponents) : Option ℤ := do
  let time := c.time.getD ⟨none, none, none⟩
  let seconds := time.seconds.getD ⟨0, 0⟩
  let days ← longWord? (c.days.getD 0 * 86400)
  let hours ← longWord? (time.hours.getD 0 * 3600)
  let total ← longWord? (days + hours)
  let minutes ← longWord? (time.minutes.getD 0 * 60)
  let total ← longWord? (total + minutes)
  let total ← longWord? (total + seconds.whole)
  let total ← longWord? (total * 1000000000)
  let total ← longWord? (total + seconds.nanos)
  if c.negative then longWord? (-total) else some total

lemma getD_lt_of_component (h : Optional (ComponentText designator) w o) :
    o.getD 0 < Nat.pow 2 64 := by
  cases h with
  | missing => decide
  | present h =>
    obtain ⟨hds⟩ := h
    exact hds.fits

lemma getD_lt_of_seconds {s : Option Seconds} (h : Optional SecondsText w s) :
    (s.getD ⟨0, 0⟩).whole < Nat.pow 2 64 ∧ (s.getD ⟨0, 0⟩).nanos < 1000000000 := by
  cases h with
  | missing => decide
  | present h =>
    obtain ⟨hds, hfraction⟩ := h
    refine ⟨hds.fits, ?_⟩
    cases hfraction with
    | missing => exact Nat.zero_lt_succ _
    | present hfraction => exact hfraction.lt

/-- No step of the sum is too large for its word. -/
lemma DayTimeComponents.sumOfWords?_eq {c : DayTimeComponents} (h : DayTimeComponentsText cs c) :
    c.sumOfWords? = some (signed c.negative c.sum) := by
  have hlimit : Nat.pow 2 64 = 18446744073709551616 := rfl
  obtain ⟨negative, hdays, htime⟩ := h
  rename_i ds ts days time
  have hday := getD_lt_of_component hdays
  have htimes : ((time.getD ⟨none, none, none⟩).hours.getD 0 < Nat.pow 2 64 ∧
      (time.getD ⟨none, none, none⟩).minutes.getD 0 < Nat.pow 2 64) ∧
      ((time.getD ⟨none, none, none⟩).seconds.getD ⟨0, 0⟩).whole < Nat.pow 2 64 ∧
      ((time.getD ⟨none, none, none⟩).seconds.getD ⟨0, 0⟩).nanos < 1000000000 := by
    cases htime with
    | missing => decide
    | present htime =>
      obtain ⟨hhours, hminutes, hseconds⟩ := htime
      exact ⟨⟨getD_lt_of_component hhours, getD_lt_of_component hminutes⟩,
        getD_lt_of_seconds hseconds⟩
  obtain ⟨⟨hhour, hminute⟩, hsecond, hnano⟩ := htimes
  rw [hlimit] at hday hhour hminute hsecond
  rw [← nanos_eq_sum, sumOfWords?, nanos]
  dsimp only
  generalize days.getD 0 = days at *
  generalize (time.getD ⟨none, none, none⟩).hours.getD 0 = hours at *
  generalize (time.getD ⟨none, none, none⟩).minutes.getD 0 = minutes at *
  generalize (time.getD ⟨none, none, none⟩).seconds.getD ⟨0, 0⟩ = seconds at *
  rw [longWord?_bind (by omega), longWord?_bind (by omega), longWord?_bind (by omega),
    longWord?_bind (by omega), longWord?_bind (by omega), longWord?_bind (by omega),
    longWord?_bind (by omega), longWord?_bind (by omega)]
  cases negative with
  | false =>
    rw [if_neg Bool.false_ne_true, signed_false]
    exact congrArg some (by omega)
  | true =>
    rw [if_pos rfl, longWord?_of_natAbs_lt (by omega), signed_true]
    exact congrArg some (by omega)

end Reader

/-- Components of which not all are missing, and some that belong to the letter of the time if it is
there. -/
inductive DayTimeDurationText : Grammar DayTimeDuration
  | intro {cs : List Char} {c : Reader.DayTimeComponents} (h : DayTimeComponentsText cs c)
    (hsome : c.days.isSome ∨ c.time.isSome)
    (htime : ∀ t ∈ c.time, t.hours.isSome ∨ t.minutes.isSome ∨ t.seconds.isSome) :
    DayTimeDurationText cs ⟨signed c.negative c.sum⟩

/-- Components of which not all are missing, with as many months as 63 bits take. -/
inductive YearMonthDurationText : Grammar YearMonthDuration
  | intro {cs : List Char} {c : Reader.YearMonthComponents} (h : YearMonthComponentsText cs c)
    (hsome : c.years.isSome ∨ c.months.isSome)
    (hmonths : 12 * c.years.getD 0 + c.months.getD 0 ≤ Nat.pow 2 63 - 1) :
    YearMonthDurationText cs ⟨signed c.negative (12 * c.years.getD 0 + c.months.getD 0)⟩

/-- What is refused on a condition. -/
lemma refused_eq_ok {α : Type} {p : Prop} [Decidable p] {e : Lexical.Error}
    {x : Except Lexical.Error α} {a : α} :
    (do if p then throw e
        x) = .ok a ↔ ¬p ∧ x = .ok a := by
  by_cases hp : p
  case pos =>
    rw [if_pos hp]
    exact iff_of_false nofun fun h => h.1 hp
  case neg =>
    rw [if_neg hp]
    exact (and_iff_right hp).symm

lemma isEmpty_eq_false {t : Reader.TimeComponents} :
    ¬t.isEmpty = true ↔ t.hours.isSome ∨ t.minutes.isSome ∨ t.seconds.isSome := by
  obtain ⟨hours, minutes, seconds⟩ := t
  cases hours <;> cases minutes <;> cases seconds <;> simp [Reader.TimeComponents.isEmpty]

lemma any_isEmpty_eq_false {time : Option Reader.TimeComponents} :
    ¬time.any (·.isEmpty) = true ↔
      ∀ t ∈ time, t.hours.isSome ∨ t.minutes.isSome ∨ t.seconds.isSome := by
  cases time with
  | none => simp
  | some t => simpa using isEmpty_eq_false

lemma not_both_missing {α β : Type} {a : Option α} {b : Option β} :
    ¬(a.isNone && b.isNone) = true ↔ a.isSome ∨ b.isSome := by
  cases a <;> cases b <;> simp

theorem DayTimeDuration.read_eq_ok_iff {text : String} {d : DayTimeDuration} :
    read text = .ok d ↔ DayTimeDurationText (Text.trimmed text.toList) d := by
  rw [read, Stateful.except_bind_eq_ok]
  constructor
  · rintro ⟨c, hread, h⟩
    have hc := (readWhole_eq_ok_iff Reader.reads_dayTimeDuration rfl).mp hread
    obtain ⟨htime, h⟩ := refused_eq_ok.mp h
    obtain ⟨hsome, h⟩ := refused_eq_ok.mp h
    cases h
    rw [Reader.DayTimeComponents.nanos_eq_sum]
    exact .intro hc (not_both_missing.mp hsome) (any_isEmpty_eq_false.mp htime)
  · intro h
    generalize hcs : Text.trimmed text.toList = cs at h
    obtain ⟨hc, hsome, htime⟩ := h
    rename_i c
    refine ⟨c, (readWhole_eq_ok_iff Reader.reads_dayTimeDuration rfl).mpr (hcs ▸ hc), ?_⟩
    refine refused_eq_ok.mpr ⟨any_isEmpty_eq_false.mpr htime, ?_⟩
    refine refused_eq_ok.mpr ⟨not_both_missing.mpr hsome, ?_⟩
    rw [Reader.DayTimeComponents.nanos_eq_sum]
    rfl

theorem YearMonthDuration.read_eq_ok_iff {text : String} {d : YearMonthDuration} :
    read text = .ok d ↔ YearMonthDurationText (Text.trimmed text.toList) d := by
  rw [read, Stateful.except_bind_eq_ok]
  constructor
  · rintro ⟨c, hread, h⟩
    have hc := (readWhole_eq_ok_iff Reader.reads_yearMonthDuration rfl).mp hread
    obtain ⟨hsome, h⟩ := refused_eq_ok.mp h
    obtain ⟨hmonths, h⟩ := refused_eq_ok.mp h
    cases h
    rw [Reader.YearMonthComponents.total_eq] at hmonths ⊢
    exact .intro hc (not_both_missing.mp hsome) (Nat.le_sub_one_of_lt (Nat.not_le.mp hmonths))
  · intro h
    generalize hcs : Text.trimmed text.toList = cs at h
    obtain ⟨hc, hsome, hmonths⟩ := h
    rename_i c
    refine ⟨c, (readWhole_eq_ok_iff Reader.reads_yearMonthDuration rfl).mpr (hcs ▸ hc), ?_⟩
    refine refused_eq_ok.mpr ⟨not_both_missing.mpr hsome, ?_⟩
    rw [Reader.YearMonthComponents.total_eq]
    exact refused_eq_ok.mpr ⟨Nat.not_le.mpr (Nat.lt_of_le_sub_one (by decide) hmonths), rfl⟩

/-- A text is read as a duration just if it is one by the rules above, and the words that the
nanoseconds are added up in are large enough for all that is read. -/
theorem durations_by_grammar :
    (∀ text d, DayTimeDuration.read text = .ok d ↔
      DayTimeDurationText (Text.trimmed text.toList) d) ∧
    (∀ text d, YearMonthDuration.read text = .ok d ↔
      YearMonthDurationText (Text.trimmed text.toList) d) ∧
    ∀ text c, readWhole .dayTimeDuration Reader.dayTimeDuration text = .ok c →
      c.sumOfWords? = some (signed c.negative c.sum) :=
  ⟨fun _ _ => DayTimeDuration.read_eq_ok_iff, fun _ _ => YearMonthDuration.read_eq_ok_iff,
    fun _ _ h => Reader.DayTimeComponents.sumOfWords?_eq
      ((readWhole_eq_ok_iff Reader.reads_dayTimeDuration rfl).mp h)⟩

/-- Two components are missing, and the fraction has a digit too many. -/
theorem durations_by_grammar_cut :
    readWhole .dayTimeDuration Reader.dayTimeDuration " -P1DT2.1234567899S" =
        .ok ⟨true, some 1, some ⟨none, none, some ⟨2, 123456789⟩⟩⟩ ∧
      DayTimeDurationText "-P1DT2.1234567899S".toList ⟨-86402123456789⟩ ∧
      Reader.DayTimeComponents.sumOfWords? ⟨true, some 1, some ⟨none, none, some ⟨2, 123456789⟩⟩⟩ =
        some (-86402123456789) := by
  have hread : readWhole .dayTimeDuration Reader.dayTimeDuration " -P1DT2.1234567899S" =
      .ok ⟨true, some 1, some ⟨none, none, some ⟨2, 123456789⟩⟩⟩ := rfl
  obtain ⟨htexts, -, hwords⟩ := durations_by_grammar
  exact ⟨hread, (htexts " -P1DT2.1234567899S" _).mp rfl, hwords _ _ hread⟩

end PolicyDecision.Calendar
