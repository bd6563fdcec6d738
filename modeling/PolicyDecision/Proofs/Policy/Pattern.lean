import PolicyDecision.Proofs.Lexical.Grammar
import PolicyDecision.Proofs.Policy.Newest

/-! What patterns of versions mean. A pattern of numbers stands for one version, which an earliest
or latest version is compared with; `*` stands for any one number, and `+` at the end for any
numbers that are left. -/

namespace PolicyDecision

open Lexical Lexical.Reader

namespace VersionNumber

variable {v w : VersionNumber} {text : String} {n : ℕ}

lemma compare_eq_lt_iff : compare v w = .lt ↔ v < w := (compares v w).eq_lt

lemma reads_numbers : Reads (separated '.' natural) (Separated '.' Numeral) fun rest =>
    EndsNumber rest ∧ '.' ∉ rest.head? :=
  reads_separated reads_natural fun _ => rfl

/-- Versions are numerals with a point between each two. -/
lemma read_eq_ok_iff : read text = .ok v ↔ Separated '.' Numeral (Text.trimmed text.toList) v := by
  rw [← whole?_eq_some_iff reads_numbers ⟨rfl, by simp⟩, read]
  split
  case h_1 w h => simp [h]
  case h_2 h => simp [h]

end VersionNumber

namespace VersionPattern

variable {p : VersionPattern} {v ns : VersionNumber} {text : String}

inductive ComponentText : Grammar VersionComponent
  | any : ComponentText ['*'] .any
  | rest : ComponentText ['+'] .rest
  | exact {w : List Char} {n : ℕ} (h : Numeral w n) : ComponentText w (.exact n)

lemma reads_component : Reads component ComponentText EndsNumber where
  sound := by
    intro cs c rest h
    rcases orElse_eq_some h with h | h
    · obtain ⟨_, mid, hstar, hc⟩ := bind_eq_some h
      cases hc
      exact ⟨['*'], .any, char_eq_some hstar⟩
    · rcases orElse_eq_some h with h | h
      · obtain ⟨_, mid, hplus, hc⟩ := bind_eq_some h
        cases hc
        exact ⟨['+'], .rest, char_eq_some hplus⟩
      · obtain ⟨n, mid, hn, hc⟩ := bind_eq_some h
        cases hc
        obtain ⟨w, hw, rfl⟩ := reads_natural.sound hn
        exact ⟨w, .exact hw, rfl⟩
  complete := by
    intro w c rest h hrest
    cases h with
    | any => rfl
    | rest => rfl
    | exact hw =>
      have hstar : char '*' (w ++ rest) = none := char_digits hw.isDigit hw.ne_nil (by decide)
      have hplus : char '+' (w ++ rest) = none := char_digits hw.isDigit hw.ne_nil (by decide)
      rw [component, orElse_of_none (bind_eq_none hstar), orElse_of_none (bind_eq_none hplus),
        bind_of_eq (reads_natural.complete hw hrest)]
      rfl

lemma reads_components : Reads (separated '.' component) (Separated '.' ComponentText) fun rest =>
    EndsNumber rest ∧ '.' ∉ rest.head? :=
  reads_separated reads_component fun _ => rfl

lemma read_eq_ok_iff :
    read text = .ok p ↔ Separated '.' ComponentText (Text.trimmed text.toList) p := by
  rw [← whole?_eq_some_iff reads_components ⟨rfl, by simp⟩, read]
  split
  case h_1 q h => simp [h]
  case h_2 h => simp [h]

/-- Numbers stand for themselves, `*` for any one number, and `+` at the end for all that are left,
if there are any. -/
inductive Matches : VersionPattern → VersionNumber → Prop
  | nil : Matches [] []
  | exact {p : VersionPattern} {v : VersionNumber} (n : ℕ) (h : Matches p v) :
    Matches (.exact n :: p) (n :: v)
  | any {p : VersionPattern} {v : VersionNumber} (n : ℕ) (h : Matches p v) :
    Matches (.any :: p) (n :: v)
  | rest (v : VersionNumber) : Matches [.rest] v

/-- A `+` stands in the last place only. -/
def RestLast (p : VersionPattern) : Prop := .rest ∉ p.dropLast

lemma RestLast.tail {c : VersionComponent} (h : RestLast (c :: p)) : RestLast p := by
  cases p with
  | nil => exact List.not_mem_nil
  | cons d p => exact fun hmem => h (List.mem_cons_of_mem c hmem)

lemma RestLast.eq_nil (h : RestLast (.rest :: p)) : p = [] := by
  cases p with
  | nil => rfl
  | cons c p => exact absurd List.mem_cons_self h

/-- The versions at the place of a pattern are those that match it. -/
lemma position_eq_eq_iff (h : p.RestLast) : p.position v = .eq ↔ p.Matches v := by
  induction p generalizing v with
  | nil =>
    cases v with
    | nil => exact iff_of_true rfl .nil
    | cons n v => exact iff_of_false (by simp [position]) (by rintro ⟨⟩)
  | cons c p ih =>
    cases c with
    | rest =>
      rw [h.eq_nil]
      exact iff_of_true (by simp [position]) (.rest v)
    | any =>
      cases v with
      | nil => exact iff_of_false (by simp [position]) (by rintro ⟨⟩)
      | cons m v =>
        rw [position, ih h.tail]
        exact ⟨.any m, by rintro ⟨⟩; assumption⟩
    | exact n =>
      cases v with
      | nil => exact iff_of_false (by simp [position]) (by rintro ⟨⟩)
      | cons m v =>
        rw [position, Ordering.then_eq_eq, Nat.compare_eq_eq, ih h.tail]
        constructor
        · rintro ⟨rfl, hmatch⟩
          exact .exact m hmatch
        · rintro ⟨⟩
          exact ⟨rfl, by assumption⟩

/-- A pattern of numbers lies where the version of these numbers lies. -/
lemma position_exact : position (ns.map .exact) v = VersionNumber.compare v ns := by
  induction ns generalizing v with
  | nil => cases v <;> rfl
  | cons n ns ih =>
    cases v with
    | nil => rfl
    | cons m v => rw [List.map_cons, position, ih, VersionNumber.compare]

lemma matches_exact (ns : VersionNumber) : Matches (ns.map .exact) ns := by
  induction ns with
  | nil => exact .nil
  | cons n ns ih => exact .exact n ih

lemma restLast_exact (ns : VersionNumber) : RestLast (ns.map .exact) := by
  intro h
  obtain ⟨n, -, hn⟩ := List.mem_map.mp (List.dropLast_subset _ h)
  cases hn

/-- Every version is a pattern of its numbers. -/
lemma read_of_version (h : VersionNumber.read text = .ok v) : read text = .ok (v.map .exact) :=
  read_eq_ok_iff.mpr ((VersionNumber.read_eq_ok_iff.mp h).map fun _ _ => .exact)

end VersionPattern

namespace VersionConstraints

variable {p : VersionPattern} {v : VersionNumber} {text version : String}

/-- A constraint by one pattern looks at the place of the version only. -/
lemma matchesVersion_version (hp : VersionPattern.read text = .ok p)
    (hv : VersionNumber.read version = .ok v) :
    ({ version := some text } : VersionConstraints).matchesVersion version = true ↔
      p.position v = .eq := by
  simp [matchesVersion, hv, matchesNumber, admits, hp]

lemma matchesVersion_earliest (hp : VersionPattern.read text = .ok p)
    (hv : VersionNumber.read version = .ok v) :
    ({ earliest := some text } : VersionConstraints).matchesVersion version = true ↔
      p.position v ≠ .lt := by
  simp [matchesVersion, hv, matchesNumber, admits, hp]

lemma matchesVersion_latest (hp : VersionPattern.read text = .ok p)
    (hv : VersionNumber.read version = .ok v) :
    ({ latest := some text } : VersionConstraints).matchesVersion version = true ↔
      p.position v ≠ .gt := by
  simp [matchesVersion, hv, matchesNumber, admits, hp]

/-- A version is admitted by a pattern that it matches, and by an earliest or latest version that it
does not come before or after. A version is also a pattern, which it matches. -/
theorem patterns_mean {version : String} {v : VersionNumber}
    (hv : VersionNumber.read version = .ok v) :
    (∀ text p, VersionPattern.read text = .ok p →
      (p.RestLast → (({ version := some text } : VersionConstraints).matchesVersion version = true ↔
        p.Matches v)) ∧
      ∀ ns, p = ns.map .exact →
        (({ earliest := some text } : VersionConstraints).matchesVersion version = true ↔ ns ≤ v) ∧
        (({ latest := some text } : VersionConstraints).matchesVersion version = true ↔ v ≤ ns)) ∧
    ∃ p, VersionPattern.read version = .ok p ∧ p.Matches v ∧
      ({ version := some version } : VersionConstraints).matchesVersion version = true := by
  refine ⟨fun text p hp => ⟨fun hrest => ?_, ?_⟩, ?_⟩
  · rw [matchesVersion_version hp hv, VersionPattern.position_eq_eq_iff hrest]
  · rintro ns rfl
    rw [matchesVersion_earliest hp hv, matchesVersion_latest hp hv, VersionPattern.position_exact,
      Ne, Ne, VersionNumber.compare_eq_lt_iff, VersionNumber.compare_eq_gt_iff, not_lt, not_lt]
    exact ⟨Iff.rfl, Iff.rfl⟩
  · have hp := VersionPattern.read_of_version hv
    have hmatch := VersionPattern.matches_exact v
    refine ⟨_, hp, hmatch, (matchesVersion_version hp hv).mpr ?_⟩
    exact (VersionPattern.position_eq_eq_iff (VersionPattern.restLast_exact v)).mpr hmatch

/-- A version that is longer than the pattern, and greater than a bound that is shorter than it. -/
theorem patterns_mean_longer :
    VersionNumber.read "1.7.1" = .ok [1, 7, 1] ∧
      VersionPattern.read "1.*.+" = .ok [.exact 1, .any, .rest] ∧
      VersionPattern.read "1.7" = .ok ([1, 7].map .exact) ∧
      ({ version := some "1.*.+" } : VersionConstraints).matchesVersion "1.7.1" = true ∧
      ({ earliest := some "1.7" } : VersionConstraints).matchesVersion "1.7.1" = true ∧
      ¬({ latest := some "1.7" } : VersionConstraints).matchesVersion "1.7.1" = true := by
  have hv : VersionNumber.read "1.7.1" = .ok [1, 7, 1] := rfl
  have hp : VersionPattern.read "1.*.+" = .ok [.exact 1, .any, .rest] := rfl
  have hbound : VersionPattern.read "1.7" = .ok ([1, 7].map .exact) := rfl
  obtain ⟨hpatterns, -⟩ := patterns_mean hv
  obtain ⟨hearliest, hlatest⟩ := (hpatterns "1.7" _ hbound).2 [1, 7] rfl
  have hlt : ([1, 7] : VersionNumber) < [1, 7, 1] := by decide
  refine ⟨hv, hp, hbound, ?_, hearliest.mpr hlt.le, fun h => absurd hlt (hlatest.mp h).not_gt⟩
  have hlast : VersionPattern.RestLast [.exact 1, .any, .rest] := by
    simp [VersionPattern.RestLast]
  exact ((hpatterns "1.*.+" _ hp).1 hlast).mpr (.exact 1 (.any 7 (.rest [1])))

end VersionConstraints

end PolicyDecision
