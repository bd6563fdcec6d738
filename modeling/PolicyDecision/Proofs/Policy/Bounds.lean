import PolicyDecision.Proofs.Policy.Pattern

/-! When the earliest and the latest version of a reference are bounds. A wildcard lets the
comparison go on behind numbers that differ, and so a later version can fall below an earliest one.
A pattern is a bound from below just if nothing comes after its first `*`, up to a `+`, and a bound
from above just if no version exceeds what comes after its first `*`. -/

namespace PolicyDecision

open Lexical

namespace VersionNumber

variable {v : VersionNumber} {text : String}

lemma cons_le_cons_iff {m n : ℕ} {w : VersionNumber} :
    m :: v ≤ n :: w ↔ m < n ∨ m = n ∧ v ≤ w := by
  rw [← not_lt, List.cons_lt_cons_iff, ← not_lt]
  rcases Nat.lt_trichotomy m n with h | rfl | h
  · simp [h, h.not_gt, h.ne']
  · simp
  · simp [h, h.not_gt, h.ne']

lemma exists_cons_of_le {m : ℕ} {w : VersionNumber} (h : m :: v ≤ w) : ∃ n w', w = n :: w' := by
  cases w with
  | nil => exact absurd h (List.nil_lt_cons m v).not_ge
  | cons n w => exact ⟨n, w, rfl⟩

/-- The versions that can be read. -/
def Readable (v : VersionNumber) : Prop := v ≠ [] ∧ ∀ n ∈ v, n < Nat.pow 2 64

lemma readable_cons {n : ℕ} :
    Readable (n :: v) ↔ n < Nat.pow 2 64 ∧ ∀ m ∈ v, m < Nat.pow 2 64 := by
  rw [Readable, List.forall_mem_cons]
  exact and_iff_right (List.cons_ne_nil n v)

lemma readable_of_read (h : read text = .ok v) : v.Readable := by
  have hv := read_eq_ok_iff.mp h
  refine ⟨hv.ne_nil, fun n hn => ?_⟩
  obtain ⟨w, hw⟩ := hv.exists_item hn
  exact hw.fits

/-- Every version that can be read has a text without white space. -/
lemma exists_separated (hne : v ≠ []) (hfits : ∀ n ∈ v, n < Nat.pow 2 64) :
    ∃ w, Separated '.' Numeral w v ∧ ∀ c ∈ w, Text.isBlank c = false := by
  induction v with
  | nil => exact absurd rfl hne
  | cons n v ih =>
    obtain ⟨hn, hfits⟩ := List.forall_mem_cons.mp hfits
    have hplain : ∀ c ∈ Decimal.digits n, Text.isBlank c = false := fun c hc =>
      Text.isBlank_of_isDigit (Decimal.isDigit_of_mem_digits hc)
    cases v with
    | nil => exact ⟨_, .last (.digits hn), hplain⟩
    | cons m v =>
      obtain ⟨w, hw, hblank⟩ := ih (List.cons_ne_nil m v) hfits
      refine ⟨_, .next (.digits hn) hw, ?_⟩
      simp only [List.forall_mem_append, List.forall_mem_cons]
      exact ⟨hplain, by decide, hblank⟩

lemma exists_text (h : v.Readable) : ∃ text, read text = .ok v := by
  obtain ⟨w, hw, hblank⟩ := exists_separated h.1 h.2
  refine ⟨String.ofList w, read_eq_ok_iff.mpr ?_⟩
  rwa [String.toList_ofList, Text.trimmed_of_not_blank hblank]

end VersionNumber

namespace VersionPattern

variable {p : VersionPattern} {v w : VersionNumber} {text : String}

/-- Up to the first `+`, a `*` comes last if there is one. -/
def IsLowerBound : VersionPattern → Prop
  | [] => True
  | .rest :: _ => True
  | .any :: p => ∀ c ∈ p.head?, c = .rest
  | .exact _ :: p => IsLowerBound p

/-- Numbers that have no greater one, up to a `+`. -/
def IsUnexceeded : VersionPattern → Prop
  | [] => False
  | .rest :: _ => True
  | .any :: p => IsUnexceeded p
  | .exact n :: p => n = Nat.pow 2 64 - 1 ∧ IsUnexceeded p

/-- Up to the first `+`, what comes after a `*` cannot be exceeded. -/
def IsUpperBound : VersionPattern → Prop
  | [] => True
  | .rest :: _ => True
  | .any :: p => IsUnexceeded p
  | .exact _ :: p => IsUpperBound p

/-- The numbers of the pattern take 64 bits. -/
def Fits (p : VersionPattern) : Prop := ∀ n, .exact n ∈ p → n < Nat.pow 2 64

lemma fits_of_read (h : read text = .ok p) : p.Fits := by
  intro n hn
  obtain ⟨w, hw⟩ := (read_eq_ok_iff.mp h).exists_item hn
  cases hw with
  | exact hw => exact hw.fits

lemma Fits.tail {c : VersionComponent} (h : Fits (c :: p)) : p.Fits :=
  fun n hn => h n (List.mem_cons_of_mem c hn)

lemma position_nil_ne_gt (p : VersionPattern) : p.position [] ≠ .gt := by
  rcases p with _ | ⟨_ | _ | _, p⟩ <;> simp [position]

/-- Where a version is not too short there is a number for `*` and for a number. -/
lemma exists_cons_of_position {c : VersionComponent} (h : position (c :: p) v ≠ .lt)
    (hc : c ≠ .rest) : ∃ m v', v = m :: v' := by
  cases v with
  | nil => cases c <;> simp_all [position]
  | cons m v => exact ⟨m, v, rfl⟩

lemma position_exact_self (n : ℕ) : position (.exact n :: p) (n :: v) = p.position v := by
  rw [position, Nat.compare_eq_eq.mpr rfl, Ordering.then]

lemma position_exact_ne_lt {n m : ℕ} :
    position (.exact n :: p) (m :: v) ≠ .lt ↔ n < m ∨ n = m ∧ p.position v ≠ .lt := by
  rw [position, Ne, Ordering.then_eq_lt, Nat.compare_eq_lt, Nat.compare_eq_eq]
  rcases Nat.lt_trichotomy n m with h | rfl | h
  · simp [h, h.not_gt, h.ne']
  · simp
  · simp [h, h.not_gt, h.ne']

lemma position_exact_ne_gt {n m : ℕ} :
    position (.exact n :: p) (m :: v) ≠ .gt ↔ m < n ∨ m = n ∧ p.position v ≠ .gt := by
  rw [position, Ne, Ordering.then_eq_gt, Nat.compare_eq_gt, Nat.compare_eq_eq]
  rcases Nat.lt_trichotomy n m with h | rfl | h
  · simp [h, h.not_gt, h.ne']
  · simp
  · simp [h, h.not_gt, h.ne]

/-- A later version does not fall below a lower bound. -/
lemma position_ne_lt_of_le (hp : p.IsLowerBound) (hle : v ≤ w) (hv : p.position v ≠ .lt) :
    p.position w ≠ .lt := by
  induction p generalizing v w with
  | nil => cases w <;> simp [position]
  | cons c p ih =>
    cases c with
    | rest => simp [position]
    | any =>
      obtain ⟨m, v, rfl⟩ := exists_cons_of_position hv (by simp)
      obtain ⟨n, w, rfl⟩ := VersionNumber.exists_cons_of_le hle
      rw [position]
      -- what comes after the wildcard takes any version
      cases p with
      | nil => cases w <;> simp [position]
      | cons d p =>
        obtain rfl := hp d rfl
        simp [position]
    | exact k =>
      obtain ⟨m, v, rfl⟩ := exists_cons_of_position hv (by simp)
      obtain ⟨n, w, rfl⟩ := VersionNumber.exists_cons_of_le hle
      rw [position_exact_ne_lt] at hv ⊢
      rcases VersionNumber.cons_le_cons_iff.mp hle with hmn | ⟨rfl, hvw⟩
      · exact .inl (by omega)
      · exact hv.imp_right fun h => ⟨h.1, ih hp hvw h.2⟩

/-- Every pattern has a version at its place. -/
lemma exists_position_eq (hfits : p.Fits) :
    ∃ v, (∀ n ∈ v, n < Nat.pow 2 64) ∧ p.position v = .eq := by
  induction p with
  | nil => exact ⟨[], List.forall_mem_nil _, rfl⟩
  | cons c p ih =>
    obtain ⟨v, hv, hposition⟩ := ih hfits.tail
    cases c with
    | rest => exact ⟨[], List.forall_mem_nil _, rfl⟩
    | any => exact ⟨0 :: v, List.forall_mem_cons.mpr ⟨by decide, hv⟩, hposition⟩
    | exact n =>
      exact ⟨n :: v, List.forall_mem_cons.mpr ⟨hfits n List.mem_cons_self, hv⟩,
        (position_exact_self n).trans hposition⟩

/-- A later version that is shorter falls below what comes after a wildcard. -/
lemma exists_falling_below (hp : ¬p.IsLowerBound) (hfits : p.Fits) :
    ∃ v w : VersionNumber, v.Readable ∧ w.Readable ∧ v ≤ w ∧ p.position v ≠ .lt ∧
      p.position w = .lt := by
  induction p with
  | nil => exact absurd trivial hp
  | cons c p ih =>
    cases c with
    | rest => exact absurd trivial hp
    | any =>
      obtain ⟨v, hv, hposition⟩ := exists_position_eq hfits.tail
      refine ⟨0 :: v, [1], VersionNumber.readable_cons.mpr ⟨by decide, hv⟩,
        VersionNumber.readable_cons.mpr ⟨by decide, by simp⟩,
        VersionNumber.cons_le_cons_iff.mpr (.inl Nat.one_pos), ?_, ?_⟩
      · rw [position, hposition]
        decide
      · rcases p with _ | ⟨_ | _ | _, p⟩
        · exact absurd (by simp [IsLowerBound]) hp
        · rfl
        · rfl
        · exact absurd (by simp [IsLowerBound]) hp
    | exact n =>
      have hn := hfits n List.mem_cons_self
      obtain ⟨v, w, hv, hw, hle, hnot, hlt⟩ := ih hp hfits.tail
      refine ⟨n :: v, n :: w, VersionNumber.readable_cons.mpr ⟨hn, hv.2⟩,
        VersionNumber.readable_cons.mpr ⟨hn, hw.2⟩,
        VersionNumber.cons_le_cons_iff.mpr (.inr ⟨rfl, hle⟩), ?_⟩
      rw [position_exact_self, position_exact_self]
      exact ⟨hnot, hlt⟩

lemma position_ne_gt (hp : p.IsUnexceeded) (hv : ∀ n ∈ v, n < Nat.pow 2 64) :
    p.position v ≠ .gt := by
  induction p generalizing v with
  | nil => exact absurd hp id
  | cons c p ih =>
    cases v with
    | nil => exact position_nil_ne_gt _
    | cons m v =>
      obtain ⟨hm, hv⟩ := List.forall_mem_cons.mp hv
      cases c with
      | rest => simp [position]
      | any => exact ih hp hv
      | exact n =>
        obtain ⟨rfl, hp⟩ := hp
        rw [position_exact_ne_gt]
        rcases Nat.lt_or_eq_of_le (Nat.le_pred_of_lt hm) with hlt | heq
        · exact .inl hlt
        · exact .inr ⟨heq, ih hp hv⟩

lemma exists_position_gt (hp : ¬p.IsUnexceeded) (hfits : p.Fits) :
    ∃ v, (∀ n ∈ v, n < Nat.pow 2 64) ∧ p.position v = .gt := by
  induction p with
  | nil => exact ⟨[0], by simp, rfl⟩
  | cons c p ih =>
    cases c with
    | rest => exact absurd trivial hp
    | any =>
      obtain ⟨v, hv, hgt⟩ := ih hp hfits.tail
      exact ⟨0 :: v, List.forall_mem_cons.mpr ⟨by decide, hv⟩, hgt⟩
    | exact n =>
      have hn := hfits n List.mem_cons_self
      by_cases hgreatest : n = Nat.pow 2 64 - 1
      case pos =>
        obtain ⟨v, hv, hgt⟩ := ih (fun h => hp ⟨hgreatest, h⟩) hfits.tail
        exact ⟨n :: v, List.forall_mem_cons.mpr ⟨hn, hv⟩, (position_exact_self n).trans hgt⟩
      case neg =>
        have hnext : n + 1 < Nat.pow 2 64 := by
          change n ≠ 18446744073709551615 at hgreatest
          change n < 18446744073709551616 at hn
          change n + 1 < 18446744073709551616
          omega
        refine ⟨[n + 1], List.forall_mem_singleton.mpr hnext, ?_⟩
        rw [position, Nat.compare_eq_gt.mpr n.lt_succ_self]
        rfl

/-- An earlier version does not exceed an upper bound. -/
lemma position_ne_gt_of_le (hp : p.IsUpperBound) (hle : v ≤ w) (hv : ∀ n ∈ v, n < Nat.pow 2 64)
    (hw : p.position w ≠ .gt) : p.position v ≠ .gt := by
  induction p generalizing v w with
  | nil =>
    cases v with
    | nil => decide
    | cons m v =>
      obtain ⟨n, w, rfl⟩ := VersionNumber.exists_cons_of_le hle
      exact absurd rfl hw
  | cons c p ih =>
    cases v with
    | nil => exact position_nil_ne_gt _
    | cons m v =>
      obtain ⟨n, w, rfl⟩ := VersionNumber.exists_cons_of_le hle
      obtain ⟨-, hv'⟩ := List.forall_mem_cons.mp hv
      cases c with
      | rest => simp [position]
      | any =>
        rw [position]
        exact position_ne_gt hp hv'
      | exact k =>
        rw [position_exact_ne_gt] at hw ⊢
        rcases VersionNumber.cons_le_cons_iff.mp hle with hmn | ⟨rfl, hvw⟩
        · exact .inl (by omega)
        · exact hw.imp_right fun h => ⟨h.1, ih hp hvw hv' h.2⟩

/-- An earlier version exceeds what comes after a wildcard, as a later one that is shorter does
not. -/
lemma exists_exceeding (hp : ¬p.IsUpperBound) (hfits : p.Fits) :
    ∃ v w : VersionNumber, v.Readable ∧ w.Readable ∧ v ≤ w ∧ p.position w ≠ .gt ∧
      p.position v = .gt := by
  induction p with
  | nil => exact absurd trivial hp
  | cons c p ih =>
    cases c with
    | rest => exact absurd trivial hp
    | any =>
      obtain ⟨v, hv, hgt⟩ := exists_position_gt hp hfits.tail
      exact ⟨0 :: v, [1], VersionNumber.readable_cons.mpr ⟨by decide, hv⟩,
        VersionNumber.readable_cons.mpr ⟨by decide, by simp⟩,
        VersionNumber.cons_le_cons_iff.mpr (.inl Nat.one_pos), position_nil_ne_gt p, hgt⟩
    | exact n =>
      have hn := hfits n List.mem_cons_self
      obtain ⟨v, w, hv, hw, hle, hnot, hgt⟩ := ih hp hfits.tail
      refine ⟨n :: v, n :: w, VersionNumber.readable_cons.mpr ⟨hn, hv.2⟩,
        VersionNumber.readable_cons.mpr ⟨hn, hw.2⟩,
        VersionNumber.cons_le_cons_iff.mpr (.inr ⟨rfl, hle⟩), ?_⟩
      rw [position_exact_self, position_exact_self]
      exact ⟨hnot, hgt⟩

end VersionPattern

namespace VersionConstraints

/-- With each version that is admitted every later one is. -/
def AdmitsLater (c : VersionConstraints) : Prop :=
  ∀ earlier later v w, VersionNumber.read earlier = .ok v → VersionNumber.read later = .ok w →
    v ≤ w → c.matchesVersion earlier = true → c.matchesVersion later = true

/-- With each version that is admitted every earlier one is. -/
def AdmitsEarlier (c : VersionConstraints) : Prop :=
  ∀ earlier later v w, VersionNumber.read earlier = .ok v → VersionNumber.read later = .ok w →
    v ≤ w → c.matchesVersion later = true → c.matchesVersion earlier = true

/-- An earliest version is a bound just if its pattern is a lower bound, and a latest version just
if its pattern is an upper bound. -/
theorem bounds_exact {text : String} {p : VersionPattern} (hp : VersionPattern.read text = .ok p) :
    (AdmitsLater { earliest := some text } ↔ p.IsLowerBound) ∧
      (AdmitsEarlier { latest := some text } ↔ p.IsUpperBound) := by
  have hfits := VersionPattern.fits_of_read hp
  refine ⟨⟨fun h => ?_, fun hbound => ?_⟩, ⟨fun h => ?_, fun hbound => ?_⟩⟩
  · by_contra hbound
    obtain ⟨v, w, hv, hw, hle, hnot, hlt⟩ := VersionPattern.exists_falling_below hbound hfits
    obtain ⟨earlier, hearlier⟩ := VersionNumber.exists_text hv
    obtain ⟨later, hlater⟩ := VersionNumber.exists_text hw
    have hadmitted := h earlier later v w hearlier hlater hle
      ((matchesVersion_earliest hp hearlier).mpr hnot)
    exact (matchesVersion_earliest hp hlater).mp hadmitted hlt
  · intro earlier later v w hearlier hlater hle hadmitted
    rw [matchesVersion_earliest hp hearlier] at hadmitted
    rw [matchesVersion_earliest hp hlater]
    exact VersionPattern.position_ne_lt_of_le hbound hle hadmitted
  · by_contra hbound
    obtain ⟨v, w, hv, hw, hle, hnot, hgt⟩ := VersionPattern.exists_exceeding hbound hfits
    obtain ⟨earlier, hearlier⟩ := VersionNumber.exists_text hv
    obtain ⟨later, hlater⟩ := VersionNumber.exists_text hw
    have hadmitted := h earlier later v w hearlier hlater hle
      ((matchesVersion_latest hp hlater).mpr hnot)
    exact (matchesVersion_latest hp hearlier).mp hadmitted hgt
  · intro earlier later v w hearlier hlater hle hadmitted
    rw [matchesVersion_latest hp hlater] at hadmitted
    rw [matchesVersion_latest hp hearlier]
    exact VersionPattern.position_ne_gt_of_le hbound hle
      (VersionNumber.readable_of_read hearlier).2 hadmitted

/-- A `*` in the last place makes a lower bound, but not an upper one. -/
theorem bounds_exact_starred :
    VersionPattern.read "2.*" = .ok [.exact 2, .any] ∧
      AdmitsLater { earliest := some "2.*" } ∧ ¬AdmitsEarlier { latest := some "2.*" } := by
  have hp : VersionPattern.read "2.*" = .ok [.exact 2, .any] := rfl
  obtain ⟨hlower, hupper⟩ := bounds_exact hp
  exact ⟨hp, hlower.mpr (fun _ h => nomatch h), fun h => hupper.mp h⟩

/-- With `*.5` the version 1.9 is admitted as a later one and 2.0 as an earlier one, and neither the
other way round. -/
theorem starred_not_bound :
    VersionPattern.read "*.5" = .ok [.any, .exact 5] ∧
      ¬AdmitsLater { earliest := some "*.5" } ∧ ¬AdmitsEarlier { latest := some "*.5" } := by
  have hearlier : VersionNumber.read "1.9" = .ok [1, 9] := rfl
  have hlater : VersionNumber.read "2.0" = .ok [2, 0] := rfl
  have hle : ([1, 9] : VersionNumber) ≤ [2, 0] :=
    VersionNumber.cons_le_cons_iff.mpr (.inl Nat.one_lt_two)
  refine ⟨rfl, fun h => ?_, fun h => ?_⟩
  · exact absurd (h "1.9" "2.0" _ _ hearlier hlater hle rfl) (by decide)
  · exact absurd (h "1.9" "2.0" _ _ hearlier hlater hle rfl) (by decide)

end VersionConstraints

end PolicyDecision
