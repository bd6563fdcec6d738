import PolicyDecision.Proofs.Calendar.RoundTrip
import PolicyDecision.Proofs.Lexical.Grammar

/-! The texts of dates, times and both together. A text is read just if, without the white space
around it, it is written by the rules below, and the day is one of the calendar. -/

namespace PolicyDecision.Calendar

open Lexical Lexical.Reader Decimal

/-- A minus in front of what is negative. -/
def minus (negative : Bool) : List Char := if negative then ['-'] else []

def signed (negative : Bool) (n : ℕ) : ℤ := if negative then -(n : ℤ) else n

/-- Four digits or more, for a year in 64 bits. -/
inductive YearText : Grammar ℤ
  | intro {ds : List Char} (negative : Bool) (hdigit : ∀ d ∈ ds, d.isDigit = true)
    (hlength : 4 ≤ ds.length) (hword : IsWord (signed negative (ofDigits ds))) :
    YearText (minus negative ++ ds) (signed negative (ofDigits ds))

inductive DayText : Grammar Day
  | intro {ys ms ds : List Char} {year : ℤ} {month day : ℕ} (hyear : YearText ys year)
    (hmonth : TwoDigits ms month) (hday : TwoDigits ds day) :
    DayText (ys ++ '-' :: (ms ++ '-' :: ds)) ⟨year, month, day⟩

/-- A point and one or more digits, for nanoseconds. What is less than one is left out. -/
inductive FractionText : Grammar ℕ
  | intro {ds : List Char} (hne : ds ≠ []) (hdigit : ∀ d ∈ ds, d.isDigit = true) :
    FractionText ('.' :: ds) (ofDigits ds * 10 ^ 9 / 10 ^ ds.length)

inductive ClockText : Grammar Reader.Clock
  | intro {hs ms ss fs : List Char} {hour minute second : ℕ} {fraction : Option ℕ}
    (hhour : TwoDigits hs hour) (hminute : TwoDigits ms minute) (hsecond : TwoDigits ss second)
    (hfraction : Optional FractionText fs fraction) :
    ClockText (hs ++ ':' :: (ms ++ ':' :: (ss ++ fs))) ⟨hour, minute, second, fraction.getD 0⟩

/-- UTC, or hours and minutes east or west of it that are not beyond the limit. -/
inductive ZoneText (limit : ℕ) : Grammar ℤ
  | utc : ZoneText limit ['Z'] 0
  | shifted {hs ms : List Char} {hours minutes : ℕ} (west : Bool) (hhours : TwoDigits hs hours)
    (hminutes : TwoDigits ms minutes) (hclock : minutes ≤ 59)
    (hlimit : hours * 60 + minutes ≤ limit) :
    ZoneText limit ((if west then '-' else '+') :: (hs ++ ':' :: ms))
      (signed west (hours * 60 + minutes))

/-- A day of the calendar and the time zone, if there is one. -/
inductive DateText : Grammar Date
  | intro {ds zs : List Char} {day : Day} {offset : Offset} (hday : DayText ds day)
    (hexists : day.Exists) (hzone : Optional (ZoneText greatestOffset) zs offset) :
    DateText (ds ++ zs) ⟨day.year, day.month, day.day, offset⟩

/-- A time on a clock of 24 hours and the time zone, if there is one. -/
inductive TimeText : Grammar Time
  | intro {cs zs : List Char} {clock : Reader.Clock} {offset : Offset} (hclock : ClockText cs clock)
    (hhour : clock.hour ≤ 23) (hminute : clock.minute ≤ 59) (hsecond : clock.second ≤ 59)
    (hzone : Optional (ZoneText greatestOffset) zs offset) :
    TimeText (cs ++ zs) ⟨clock.hour, clock.minute, clock.second, clock.nanos, offset⟩

/-- A day, the letter, a time, and the time zone of both. -/
inductive DateTimeText : Grammar DateTime
  | intro {ds cs : List Char} {day : Day} {time : Time} (hday : DayText ds day)
    (hexists : day.Exists) (htime : TimeText cs time) :
    DateTimeText (ds ++ 'T' :: cs) ⟨⟨day.year, day.month, day.day, time.offset⟩, time⟩

variable {w cs ds rest : List Char} {negative : Bool} {year : ℤ} {limit n : ℕ}

@[simp] lemma signed_false (n : ℕ) : signed false n = n := rfl

@[simp] lemma signed_true (n : ℕ) : signed true n = -(n : ℤ) := rfl

lemma natAbs_signed (negative : Bool) (n : ℕ) : (signed negative n).natAbs = n := by
  cases negative <;> simp

lemma FractionText.lt (h : FractionText cs n) : n < 1000000000 := by
  obtain ⟨-, hdigit⟩ := h
  have hlt := Nat.mul_lt_mul_of_pos_right (ofDigits_lt hdigit) (show 0 < 10 ^ 9 by decide)
  exact Nat.div_lt_of_lt_mul hlt

/-- The zones up to a limit are those of a greater limit that keep to it. -/
lemma ZoneText.of_natAbs_le {limit' : ℕ} {minutes : ℤ} (h : ZoneText limit cs minutes)
    (hlimit : minutes.natAbs ≤ limit') : ZoneText limit' cs minutes := by
  cases h with
  | utc => exact .utc
  | shifted west hhours hminutes hclock _ =>
    rw [natAbs_signed] at hlimit
    exact .shifted west hhours hminutes hclock hlimit

lemma ZoneText.natAbs_le {minutes : ℤ} (h : ZoneText limit cs minutes) :
    minutes.natAbs ≤ limit := by
  cases h with
  | utc => exact Nat.zero_le _
  | shifted west _ _ _ hlimit => rwa [natAbs_signed]

namespace Reader

lemma maybe_minus_eq_some {o : Option Unit} (h : maybe (char '-') cs = some (o, rest)) :
    cs = minus o.isSome ++ rest := by
  rcases maybe_eq_some h with ⟨rfl, rfl⟩ | ⟨_, rfl, hminus⟩
  · rfl
  · exact char_eq_some hminus

lemma exists_maybe_minus (negative : Bool) (h : char '-' rest = none) :
    ∃ o, o.isSome = negative ∧ maybe (char '-') (minus negative ++ rest) = some (o, rest) := by
  obtain ⟨o, hread, ho⟩ := maybe_minus (p := negative = true) h
  exact ⟨o, Bool.eq_iff_iff.mpr ho, hread⟩

theorem reads_year : Reads Reader.year YearText EndsNumber where
  sound := by
    intro cs y rest h
    obtain ⟨o, cs₁, hminus, h₁⟩ := bind_eq_some h
    obtain ⟨ds, cs₂, hds, h₂⟩ := bind_eq_some h₁
    obtain rfl := maybe_minus_eq_some hminus
    obtain ⟨rfl, hdigit, hlength⟩ := digits_eq_some hds
    have hlimit : Nat.pow 2 63 = 9223372036854775808 := rfl
    have hy : (y, rest) = (signed o.isSome (ofDigits ds), cs₂) ∧ IsWord y := by
      rw [isWord_iff]
      dsimp only at h₂
      split at h₂
      case isTrue hnegative =>
        obtain ⟨hle, heq⟩ := guarded_eq_some h₂
        cases heq
        exact ⟨by rw [hnegative]; rfl, by omega⟩
      case isFalse hnegative =>
        obtain ⟨hlt, heq⟩ := guarded_eq_some h₂
        cases heq
        exact ⟨by rw [Bool.eq_false_iff.mpr hnegative]; rfl, by omega⟩
    obtain ⟨heq, hword⟩ := hy
    cases heq
    exact ⟨_, .intro o.isSome hdigit hlength hword, (List.append_assoc _ _ _).symm⟩
  complete := by
    rintro _ _ rest ⟨negative, hdigit, hlength, hword⟩ hrest
    rename_i ds
    have hlimit : Nat.pow 2 63 = 9223372036854775808 := rfl
    have hne : ds ≠ [] := List.length_pos_iff.mp (Nat.lt_of_lt_of_le (by decide) hlength)
    have hdash : char '-' (ds ++ rest) = none := char_digits hdigit hne (by decide)
    obtain ⟨o, rfl, hminus⟩ := exists_maybe_minus negative hdash
    rw [isWord_iff] at hword
    rw [List.append_assoc, Reader.year, bind_of_eq hminus,
      bind_of_eq (digits_append hdigit hrest hlength)]
    cases o with
    | none =>
      replace hword : (ofDigits ds : ℤ) ≤ 9223372036854775807 := hword.2
      change (if ofDigits ds < Nat.pow 2 63 then pure (ofDigits ds : ℤ) else failure :
        Lexical.Reader ℤ) rest = _
      rw [if_pos (by omega)]
      rfl
    | some _ =>
      replace hword : -9223372036854775808 ≤ -(ofDigits ds : ℤ) := hword.1
      change (if ofDigits ds ≤ Nat.pow 2 63 then pure (-(ofDigits ds : ℤ)) else failure :
        Lexical.Reader ℤ) rest = _
      rw [if_pos (by omega)]
      rfl

theorem reads_day : Reads Reader.day DayText fun _ => True where
  sound := by
    intro cs d rest h
    obtain ⟨y, cs₁, hy, h₁⟩ := bind_eq_some h
    obtain ⟨_, cs₂, hdash, h₂⟩ := bind_eq_some h₁
    obtain ⟨m, cs₃, hm, h₃⟩ := bind_eq_some h₂
    obtain ⟨_, cs₄, hdash', h₄⟩ := bind_eq_some h₃
    obtain ⟨d, cs₅, hd, h₅⟩ := bind_eq_some h₄
    cases h₅
    obtain ⟨ys, hys, rfl⟩ := reads_year.sound hy
    obtain rfl := char_eq_some hdash
    obtain ⟨ms, hms, rfl⟩ := reads_twoDigits.sound hm
    obtain rfl := char_eq_some hdash'
    obtain ⟨ds, hds, rfl⟩ := reads_twoDigits.sound hd
    exact ⟨_, .intro hys hms hds, by simp⟩
  complete := by
    rintro _ _ rest ⟨hy, hm, hd⟩ -
    simp only [List.append_assoc, List.cons_append]
    rw [Reader.day, bind_of_eq (reads_year.complete hy rfl), bind_of_eq (char_cons '-' _),
      bind_of_eq (reads_twoDigits.complete hm trivial), bind_of_eq (char_cons '-' _),
      bind_of_eq (reads_twoDigits.complete hd trivial)]
    rfl

theorem reads_nanos : Reads nanos FractionText EndsNumber where
  sound := by
    intro cs n rest h
    obtain ⟨_, cs₁, hpoint, h₁⟩ := bind_eq_some h
    obtain ⟨ds, cs₂, hds, h₂⟩ := bind_eq_some h₁
    obtain rfl := char_eq_some hpoint
    obtain ⟨rfl, hdigit, hlength⟩ := digits_eq_some hds
    cases h₂
    rw [ofDigits_cut 9 hdigit]
    exact ⟨_, .intro (List.length_pos_iff.mp hlength) hdigit, rfl⟩
  complete := by
    rintro _ _ rest ⟨hne, hdigit⟩ hrest
    have hdigits := digits_append hdigit hrest (List.length_pos_iff.mpr hne)
    rw [List.cons_append, nanos, bind_of_eq (char_cons '.' _), bind_of_eq hdigits,
      ofDigits_cut 9 hdigit]
    rfl

theorem reads_clock : Reads clock ClockText fun rest => EndsNumber rest ∧ nanos rest = none where
  sound := by
    intro cs c rest h
    obtain ⟨hour, cs₁, hhour, h₁⟩ := bind_eq_some h
    obtain ⟨_, cs₂, hcolon, h₂⟩ := bind_eq_some h₁
    obtain ⟨minute, cs₃, hminute, h₃⟩ := bind_eq_some h₂
    obtain ⟨_, cs₄, hcolon', h₄⟩ := bind_eq_some h₃
    obtain ⟨second, cs₅, hsecond, h₅⟩ := bind_eq_some h₄
    obtain ⟨fraction, cs₆, hfraction, h₆⟩ := bind_eq_some h₅
    cases h₆
    obtain ⟨hs, hhs, rfl⟩ := reads_twoDigits.sound hhour
    obtain rfl := char_eq_some hcolon
    obtain ⟨ms, hms, rfl⟩ := reads_twoDigits.sound hminute
    obtain rfl := char_eq_some hcolon'
    obtain ⟨ss, hss, rfl⟩ := reads_twoDigits.sound hsecond
    obtain ⟨fs, hfs, rfl⟩ := (reads_maybe reads_nanos).sound hfraction
    exact ⟨_, .intro hhs hms hss hfs, by simp⟩
  complete := by
    rintro _ _ rest ⟨hhour, hminute, hsecond, hfraction⟩ hrest
    simp only [List.append_assoc, List.cons_append]
    rw [clock, bind_of_eq (reads_twoDigits.complete hhour trivial), bind_of_eq (char_cons ':' _),
      bind_of_eq (reads_twoDigits.complete hminute trivial), bind_of_eq (char_cons ':' _),
      bind_of_eq (reads_twoDigits.complete hsecond trivial),
      bind_of_eq ((reads_maybe reads_nanos).complete hfraction hrest)]
    rfl

lemma sign_eq_some (h : sign cs = some (negative, rest)) :
    cs = (if negative then '-' else '+') :: rest := by
  rw [sign.eq_def] at h
  split at h
  case h_1 => cases h; rfl
  case h_2 => cases h; rfl
  case h_3 => cases h

lemma sign_cons (negative : Bool) (rest : List Char) :
    sign ((if negative then '-' else '+') :: rest) = some (negative, rest) := by
  cases negative <;> rfl

/-- An hour more than the greatest time zone, less a minute, is still read as one. -/
theorem reads_zone : Reads (utc <|> zone) (ZoneText (greatestOffset + 59)) fun _ => True where
  sound := by
    intro cs m rest h
    rcases orElse_eq_some h with h | h
    · obtain ⟨_, cs₁, hletter, hm⟩ := bind_eq_some h
      cases hm
      exact ⟨['Z'], .utc, char_eq_some hletter⟩
    · obtain ⟨west, cs₁, hsign, h₁⟩ := bind_eq_some h
      obtain ⟨hours, cs₂, hhours, h₂⟩ := bind_eq_some h₁
      obtain ⟨_, cs₃, hcolon, h₃⟩ := bind_eq_some h₂
      obtain ⟨minutes, cs₄, hminutes, h₄⟩ := bind_eq_some h₃
      obtain ⟨⟨hhour, hminute⟩, heq⟩ := guarded_eq_some h₄
      cases heq
      obtain rfl := sign_eq_some hsign
      obtain ⟨hs, hhs, rfl⟩ := reads_twoDigits.sound hhours
      obtain rfl := char_eq_some hcolon
      obtain ⟨ms, hms, rfl⟩ := reads_twoDigits.sound hminutes
      have hlimit : hours * 60 + minutes ≤ greatestOffset + 59 := by
        have : greatestOffset = 840 := rfl
        omega
      have hvalue := ZoneText.shifted west hhs hms hminute hlimit
      exact ⟨_, hvalue, by simp⟩
  complete := by
    rintro w m rest hw -
    cases hw with
    | utc => rfl
    | shifted west hhours hminutes hclock hlimit =>
      rename_i hs ms hours minutes
      have hhour : hours ≤ 14 := by
        have : greatestOffset = 840 := rfl
        omega
      have hutc : utc ((if west then '-' else '+') :: (hs ++ ':' :: ms) ++ rest) = none := by
        refine bind_eq_none (char_eq_none ?_)
        cases west <;> simp
      rw [orElse_of_none hutc, List.cons_append, List.append_assoc, List.cons_append, zone,
        bind_of_eq (sign_cons west _), bind_of_eq (reads_twoDigits.complete hhours trivial),
        bind_of_eq (char_cons ':' _), bind_of_eq (reads_twoDigits.complete hminutes trivial),
        if_pos ⟨hhour, hclock⟩]
      rfl

theorem reads_offset : Reads offset (Optional (ZoneText (greatestOffset + 59))) (· = []) where
  sound := (reads_maybe reads_zone).sound
  complete := by
    rintro w o rest hw rfl
    exact (reads_maybe reads_zone).complete hw ⟨trivial, rfl⟩

/-- A time zone does not begin as a number or a fraction goes on. -/
lemma ends_zone {zs : List Char} {o : Offset} (h : Optional (ZoneText limit) zs o) :
    EndsNumber zs ∧ nanos zs = none := by
  cases h with
  | missing => exact ⟨rfl, rfl⟩
  | present h =>
    cases h with
    | utc => exact ⟨rfl, rfl⟩
    | shifted west =>
      cases west
      · exact ⟨rfl, rfl⟩
      · exact ⟨rfl, rfl⟩

theorem reads_date : Reads Reader.date (fun cs p => ∃ ds zs, cs = ds ++ zs ∧ DayText ds p.1 ∧
    Optional (ZoneText (greatestOffset + 59)) zs p.2) (· = []) where
  sound := by
    intro cs p rest h
    obtain ⟨d, cs₁, hd, h₁⟩ := bind_eq_some h
    obtain ⟨o, cs₂, ho, h₂⟩ := bind_eq_some h₁
    cases h₂
    obtain ⟨ds, hds, rfl⟩ := reads_day.sound hd
    obtain ⟨zs, hzs, rfl⟩ := reads_offset.sound ho
    exact ⟨ds ++ zs, ⟨ds, zs, rfl, hds, hzs⟩, (List.append_assoc _ _ _).symm⟩
  complete := by
    rintro _ ⟨d, o⟩ _ ⟨ds, zs, rfl, hds, hzs⟩ rfl
    rw [List.append_assoc, Reader.date, bind_of_eq (reads_day.complete hds trivial),
      bind_of_eq (reads_offset.complete hzs rfl)]
    rfl

theorem reads_time : Reads Reader.time (fun cs p => ∃ ts zs, cs = ts ++ zs ∧ ClockText ts p.1 ∧
    Optional (ZoneText (greatestOffset + 59)) zs p.2) (· = []) where
  sound := by
    intro cs p rest h
    obtain ⟨c, cs₁, hc, h₁⟩ := bind_eq_some h
    obtain ⟨o, cs₂, ho, h₂⟩ := bind_eq_some h₁
    cases h₂
    obtain ⟨ts, hts, rfl⟩ := reads_clock.sound hc
    obtain ⟨zs, hzs, rfl⟩ := reads_offset.sound ho
    exact ⟨ts ++ zs, ⟨ts, zs, rfl, hts, hzs⟩, (List.append_assoc _ _ _).symm⟩
  complete := by
    rintro _ ⟨c, o⟩ _ ⟨ts, zs, rfl, hts, hzs⟩ rfl
    have hends := ends_zone hzs
    rw [List.append_assoc, Reader.time,
      bind_of_eq (reads_clock.complete hts (by simpa using hends)),
      bind_of_eq (reads_offset.complete hzs rfl)]
    rfl

theorem reads_dateTime : Reads Reader.dateTime (fun cs p => ∃ ds ts zs,
    cs = ds ++ 'T' :: (ts ++ zs) ∧ DayText ds p.1 ∧ ClockText ts p.2.1 ∧
      Optional (ZoneText (greatestOffset + 59)) zs p.2.2) (· = []) where
  sound := by
    intro cs p rest h
    obtain ⟨d, cs₁, hd, h₁⟩ := bind_eq_some h
    obtain ⟨_, cs₂, hletter, h₂⟩ := bind_eq_some h₁
    obtain ⟨c, cs₃, hc, h₃⟩ := bind_eq_some h₂
    obtain ⟨o, cs₄, ho, h₄⟩ := bind_eq_some h₃
    cases h₄
    obtain ⟨ds, hds, rfl⟩ := reads_day.sound hd
    obtain rfl := char_eq_some hletter
    obtain ⟨ts, hts, rfl⟩ := reads_clock.sound hc
    obtain ⟨zs, hzs, rfl⟩ := reads_offset.sound ho
    exact ⟨_, ⟨ds, ts, zs, rfl, hds, hts, hzs⟩, by simp⟩
  complete := by
    rintro _ ⟨d, c, o⟩ _ ⟨ds, ts, zs, rfl, hds, hts, hzs⟩ rfl
    have hends := ends_zone hzs
    rw [List.append_assoc, Reader.dateTime, bind_of_eq (reads_day.complete hds trivial),
      List.cons_append, bind_of_eq (char_cons 'T' _), List.append_assoc,
      bind_of_eq (reads_clock.complete hts (by simpa using hends)),
      bind_of_eq (reads_offset.complete hzs rfl)]
    rfl

end Reader

/-- A text that is read as a whole is of the grammar that is read. -/
lemma readWhole_eq_ok_iff {α : Type} {type : DataType} {r : Lexical.Reader α} {grammar : Grammar α}
    {ends : List Char → Prop} {text : String} {a : α} (h : Reads r grammar ends) (hnil : ends []) :
    readWhole type r text = .ok a ↔ grammar (Text.trimmed text.toList) a := by
  rw [← whole?_eq_some_iff h hnil, readWhole]
  split
  case h_1 b hb => simp [hb]
  case h_2 hnone => simp [hnone]

/-- The zones that are checked are the zones of the grammar. -/
lemma optional_zone_iff {zs : List Char} {o : Offset} :
    Optional (ZoneText greatestOffset) zs o ↔
      Optional (ZoneText (greatestOffset + 59)) zs o ∧ o.Valid := by
  constructor
  · intro h
    cases h with
    | missing => exact ⟨.missing, nofun⟩
    | present h =>
      have hle := h.natAbs_le
      refine ⟨.present (h.of_natAbs_le (hle.trans (Nat.le_add_right _ 59))), ?_⟩
      rintro _ ⟨⟩
      exact hle
  · rintro ⟨h, hvalid⟩
    cases h with
    | missing => exact .missing
    | present h => exact .present (h.of_natAbs_le (hvalid _ rfl))

lemma ClockText.nanos_lt {c : Reader.Clock} (h : ClockText cs c) : c.nanos < 1000000000 := by
  obtain ⟨-, -, -, hfraction⟩ := h
  cases hfraction with
  | missing => exact Nat.zero_lt_succ _
  | present h => exact h.lt

theorem Date.read_eq_ok_iff {text : String} {d : Date} :
    read text = .ok d ↔ DateText (Text.trimmed text.toList) d := by
  rw [read, Stateful.except_bind_eq_ok]
  constructor
  · rintro ⟨⟨day, o⟩, hread, hmake⟩
    obtain ⟨ds, zs, hcs, hds, hzs⟩ := (readWhole_eq_ok_iff Reader.reads_date rfl).mp hread
    obtain ⟨rfl, hexists, hvalid⟩ := make_eq_ok.mp hmake
    rw [hcs]
    exact .intro hds hexists (optional_zone_iff.mpr ⟨hzs, hvalid⟩)
  · intro h
    generalize hcs : Text.trimmed text.toList = cs at h
    obtain ⟨hds, hexists, hzs⟩ := h
    obtain ⟨hzs, hvalid⟩ := optional_zone_iff.mp hzs
    exact ⟨(_, _), (readWhole_eq_ok_iff Reader.reads_date rfl).mpr ⟨_, _, hcs, hds, hzs⟩,
      make_eq_ok.mpr ⟨rfl, hexists, hvalid⟩⟩

theorem Time.read_eq_ok_iff {text : String} {t : Time} :
    read text = .ok t ↔ TimeText (Text.trimmed text.toList) t := by
  rw [read, Stateful.except_bind_eq_ok]
  constructor
  · rintro ⟨⟨clock, o⟩, hread, hmake⟩
    obtain ⟨ts, zs, hcs, hts, hzs⟩ := (readWhole_eq_ok_iff Reader.reads_time rfl).mp hread
    obtain ⟨rfl, ⟨hhour, hminute, hsecond, -⟩, hvalid⟩ := make_eq_ok.mp hmake
    rw [hcs]
    exact .intro hts (Nat.le_of_lt_succ hhour) (Nat.le_of_lt_succ hminute)
      (Nat.le_of_lt_succ hsecond) (optional_zone_iff.mpr ⟨hzs, hvalid⟩)
  · intro h
    generalize hcs : Text.trimmed text.toList = cs at h
    obtain ⟨hts, hhour, hminute, hsecond, hzs⟩ := h
    obtain ⟨hzs, hvalid⟩ := optional_zone_iff.mp hzs
    exact ⟨(_, _), (readWhole_eq_ok_iff Reader.reads_time rfl).mpr ⟨_, _, hcs, hts, hzs⟩,
      make_eq_ok.mpr ⟨rfl, ⟨Nat.lt_succ_of_le hhour, Nat.lt_succ_of_le hminute,
        Nat.lt_succ_of_le hsecond, hts.nanos_lt⟩, hvalid⟩⟩

theorem DateTime.read_eq_ok_iff {text : String} {t : DateTime} :
    read text = .ok t ↔ DateTimeText (Text.trimmed text.toList) t := by
  rw [read, Stateful.except_bind_eq_ok]
  constructor
  · rintro ⟨⟨day, clock, o⟩, hread, hmake⟩
    obtain ⟨ds, ts, zs, hcs, hds, hts, hzs⟩ :=
      (readWhole_eq_ok_iff Reader.reads_dateTime rfl).mp hread
    obtain ⟨rfl, ⟨hexists, hvalid⟩, ⟨⟨hhour, hminute, hsecond, -⟩, -⟩, -⟩ := make_eq_ok.mp hmake
    rw [hcs]
    exact .intro hds hexists (.intro hts (Nat.le_of_lt_succ hhour) (Nat.le_of_lt_succ hminute)
      (Nat.le_of_lt_succ hsecond) (optional_zone_iff.mpr ⟨hzs, hvalid⟩))
  · intro h
    generalize hcs : Text.trimmed text.toList = cs at h
    obtain ⟨hds, hexists, htime⟩ := h
    obtain ⟨hts, hhour, hminute, hsecond, hzs⟩ := htime
    obtain ⟨hzs, hvalid⟩ := optional_zone_iff.mp hzs
    exact ⟨(_, _, _),
      (readWhole_eq_ok_iff Reader.reads_dateTime rfl).mpr ⟨_, _, _, hcs, hds, hts, hzs⟩,
      make_eq_ok.mpr ⟨rfl, ⟨hexists, hvalid⟩, ⟨⟨Nat.lt_succ_of_le hhour, Nat.lt_succ_of_le hminute,
        Nat.lt_succ_of_le hsecond, hts.nanos_lt⟩, hvalid⟩, rfl⟩⟩

/-- A text is read as a date, as a time or as both just if, without the white space around it, it is
written so; and then with the components that are written. -/
theorem read_by_grammar (text : String) :
    (∀ d, Date.read text = .ok d ↔ DateText (Text.trimmed text.toList) d) ∧
      (∀ t, Time.read text = .ok t ↔ TimeText (Text.trimmed text.toList) t) ∧
      ∀ t, DateTime.read text = .ok t ↔ DateTimeText (Text.trimmed text.toList) t :=
  ⟨fun _ => Date.read_eq_ok_iff, fun _ => Time.read_eq_ok_iff, fun _ => DateTime.read_eq_ok_iff⟩

end PolicyDecision.Calendar
