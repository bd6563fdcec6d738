import PolicyDecision.Proofs.Lexical.Reader

/-! Grammars say which texts write which values, without saying how they are read. A reader reads a
grammar if it takes a text of the grammar off the front of what it is given, and finds every such
text that has an end. -/

namespace PolicyDecision.Lexical

/-- Which texts write which values. -/
abbrev Grammar (α : Type) := List Char → α → Prop

/-- No digit comes next. -/
abbrev EndsNumber (rest : List Char) : Prop := rest.takeWhile Char.isDigit = []

/-- One or more digits, and the number of 64 bits that they write. -/
structure Numeral (cs : List Char) (n : ℕ) : Prop where
  ne_nil : cs ≠ []
  isDigit : ∀ c ∈ cs, c.isDigit = true
  value : Decimal.ofDigits cs = n
  fits : n < Nat.pow 2 64

inductive TwoDigits : Grammar ℕ
  | intro {a b : Char} (ha : a.isDigit = true) (hb : b.isDigit = true) :
    TwoDigits [a, b] (Decimal.ofDigits [a, b])

/-- A text of the grammar, or nothing. -/
inductive Optional {α : Type} (grammar : Grammar α) : Grammar (Option α)
  | missing : Optional grammar [] none
  | present {w : List Char} {a : α} (h : grammar w a) : Optional grammar w (some a)

/-- One or more items with a separator between each two. -/
inductive Separated {α : Type} (sep : Char) (item : Grammar α) : Grammar (List α)
  | last {w : List Char} {a : α} (h : item w a) : Separated sep item w [a]
  | next {w ws : List Char} {a : α} {as : List α} (h : item w a) (hs : Separated sep item ws as) :
    Separated sep item (w ++ sep :: ws) (a :: as)

/-- What is read is a text of the grammar, and each such text is read if a text that ends it
follows. -/
structure Reads {α : Type} (r : Reader α) (grammar : Grammar α) (ends : List Char → Prop) :
    Prop where
  sound : ∀ {cs a rest}, r cs = some (a, rest) → ∃ w, grammar w a ∧ cs = w ++ rest
  complete : ∀ {w a rest}, grammar w a → ends rest → r (w ++ rest) = some (a, rest)

variable {α : Type} {r : Reader α} {grammar : Grammar α} {ends : List Char → Prop}
variable {cs ds rest : List Char} {a : α} {as : List α} {c sep : Char} {n least : ℕ}

lemma Numeral.digits (h : n < Nat.pow 2 64) : Numeral (Decimal.digits n) n where
  ne_nil := Decimal.digits_ne_nil n
  isDigit _ := Decimal.isDigit_of_mem_digits
  value := Decimal.ofDigits_digits n
  fits := h

lemma Separated.ne_nil (h : Separated sep grammar cs as) : as ≠ [] := by
  cases h <;> exact List.cons_ne_nil _ _

lemma Separated.length_le (h : Separated sep grammar cs as) : as.length ≤ cs.length + 1 := by
  induction h with
  | last => simp
  | next _ _ ih =>
    simp only [List.length_append, List.length_cons]
    omega

/-- Texts of another grammar for the items. -/
lemma Separated.map {β : Type} {item : Grammar β} {f : α → β} (h : Separated sep grammar cs as)
    (hitem : ∀ w a, grammar w a → item w (f a)) : Separated sep item cs (as.map f) := by
  induction h with
  | last hw => exact .last (hitem _ _ hw)
  | next hw _ ih => exact .next (hitem _ _ hw) ih

/-- Every item is one of the grammar. -/
lemma Separated.exists_item (h : Separated sep grammar cs as) (ha : a ∈ as) : ∃ w, grammar w a := by
  induction h with
  | last h =>
    rw [List.mem_singleton.mp ha]
    exact ⟨_, h⟩
  | next h _ ih =>
    rcases List.mem_cons.mp ha with rfl | ha
    · exact ⟨_, h⟩
    · exact ih ha

namespace Reader

lemma char_eq_some {u : Unit} (h : char c cs = some (u, rest)) : cs = c :: rest := by
  cases cs with
  | nil => cases h
  | cons d cs =>
    by_cases hd : d = c
    case pos =>
      rw [char, if_pos hd] at h
      cases h
      rw [hd]
    case neg =>
      rw [char, if_neg hd] at h
      cases h

lemma maybe_eq_some {o : Option α} (h : maybe r cs = some (o, rest)) :
    (o = none ∧ cs = rest) ∨ ∃ a, o = some a ∧ r cs = some (a, rest) := by
  rw [maybe] at h
  split at h
  case h_1 a rest heq =>
    cases h
    exact .inr ⟨a, rfl, heq⟩
  case h_2 =>
    cases h
    exact .inl ⟨rfl, rfl⟩

lemma digits_eq_some (h : digits least cs = some (ds, rest)) :
    cs = ds ++ rest ∧ (∀ d ∈ ds, d.isDigit = true) ∧ least ≤ ds.length := by
  simp only [digits] at h
  split at h
  case isTrue hle =>
    cases h
    exact ⟨List.takeWhile_append_dropWhile.symm, fun _ => List.mem_takeWhile_imp, hle⟩
  case isFalse => cases h

/-- A grammar is read as a whole where nothing follows. -/
lemma whole?_eq_some_iff (h : Reads r grammar ends) (hnil : ends []) :
    whole? r cs = some a ↔ grammar cs a := by
  constructor
  · intro hwhole
    obtain ⟨w, hw, rfl⟩ := h.sound (whole?_eq_some hwhole)
    rwa [List.append_nil]
  · intro hcs
    refine whole?_of_eq ?_
    rw [← List.append_nil cs]
    exact h.complete hcs hnil

/-- What may be missing is missing where the reader finds nothing. -/
theorem reads_maybe (h : Reads r grammar ends) :
    Reads (maybe r) (Optional grammar) fun rest => ends rest ∧ r rest = none where
  sound := by
    intro cs o rest hmaybe
    rcases maybe_eq_some hmaybe with ⟨rfl, rfl⟩ | ⟨a, rfl, ha⟩
    · exact ⟨[], .missing, rfl⟩
    · obtain ⟨w, hw, hcs⟩ := h.sound ha
      exact ⟨w, .present hw, hcs⟩
  complete := by
    rintro _ _ rest hw ⟨hrest, hnone⟩
    cases hw with
    | missing => exact maybe_eq_none hnone
    | present hw => exact maybe_of_eq (h.complete hw hrest)

theorem reads_natural : Reads natural Numeral EndsNumber where
  sound := by
    intro cs n rest h
    obtain ⟨ds, mid, hds, hguard⟩ := bind_eq_some h
    obtain ⟨rfl, hdigit, hlength⟩ := digits_eq_some hds
    obtain ⟨hfits, heq⟩ := guarded_eq_some hguard
    cases heq
    exact ⟨ds, ⟨List.length_pos_iff.mp hlength, hdigit, rfl, hfits⟩, rfl⟩
  complete := by
    intro ds n rest hds hrest
    have hdigits : digits 1 (ds ++ rest) = some (ds, rest) :=
      digits_append hds.isDigit hrest (List.length_pos_iff.mpr hds.ne_nil)
    rw [natural, bind_of_eq hdigits, hds.value, if_pos hds.fits]
    rfl

theorem reads_twoDigits : Reads twoDigits TwoDigits fun _ => True where
  sound := by
    intro cs n rest h
    rw [twoDigits.eq_def] at h
    split at h
    case h_1 a b rest =>
      split at h
      case isTrue hdigit =>
        cases h
        obtain ⟨ha, hb⟩ := Bool.and_eq_true_iff.mp hdigit
        exact ⟨[a, b], .intro ha hb, rfl⟩
      case isFalse => cases h
    case h_2 => cases h
  complete := by
    rintro _ _ rest ⟨ha, hb⟩ -
    simp [twoDigits, ha, hb]

section Separators

variable {item : Reader α} {fuel : ℕ}

lemma separatedFrom_sound (hitem : Reads item grammar ends)
    (h : separatedFrom sep item fuel cs = (as, rest)) :
    (as = [] ∧ cs = rest) ∨ ∃ ws, Separated sep grammar ws as ∧ cs = sep :: (ws ++ rest) := by
  induction fuel generalizing cs as with
  | zero =>
    cases h
    exact .inl ⟨rfl, rfl⟩
  | succ fuel ih =>
    rw [separatedFrom] at h
    split at h
    case h_1 a mid heq =>
      obtain ⟨_, cs₁, hsep, hread⟩ := bind_eq_some heq
      obtain rfl := char_eq_some hsep
      obtain ⟨w, hw, rfl⟩ := hitem.sound hread
      generalize hfrom : separatedFrom sep item fuel mid = found at h
      obtain ⟨as, rest⟩ := found
      cases h
      rcases ih hfrom with ⟨rfl, rfl⟩ | ⟨ws, hws, rfl⟩
      · exact .inr ⟨w, .last hw, rfl⟩
      · exact .inr ⟨_, .next hw hws, by simp⟩
    case h_2 =>
      cases h
      exact .inl ⟨rfl, rfl⟩

lemma separatedFrom_of_ne (h : sep ∉ rest.head?) :
    separatedFrom sep item fuel rest = ([], rest) := by
  cases fuel with
  | zero => rfl
  | succ fuel =>
    have hnone : (do char sep; item : Reader α) rest = none := bind_eq_none (char_eq_none h)
    rw [separatedFrom, hnone]

lemma separatedFrom_complete (hitem : Reads item grammar ends) (hsep : ∀ rest, ends (sep :: rest))
    (h : Separated sep grammar cs as) (hfuel : as.length ≤ fuel) (hrest : ends rest)
    (hend : sep ∉ rest.head?) :
    separatedFrom sep item fuel (sep :: (cs ++ rest)) = (as, rest) := by
  induction h generalizing fuel with
  | @last w a hw =>
    obtain ⟨fuel, rfl⟩ : ∃ k, fuel = k + 1 := Nat.exists_eq_add_one.mpr hfuel
    have hread : (do char sep; item : Reader α) (sep :: (w ++ rest)) = some (a, rest) := by
      rw [bind_of_eq (char_cons sep _), hitem.complete hw hrest]
    rw [separatedFrom, hread]
    simp only [separatedFrom_of_ne hend]
  | @next w ws a as hw _ ih =>
    obtain ⟨fuel, rfl⟩ : ∃ k, fuel = k + 1 := Nat.exists_eq_add_one.mpr (Nat.zero_lt_of_lt hfuel)
    have hread : (do char sep; item : Reader α) (sep :: (w ++ sep :: (ws ++ rest))) =
        some (a, sep :: (ws ++ rest)) := by
      rw [bind_of_eq (char_cons sep _), hitem.complete hw (hsep _)]
    rw [List.append_assoc, List.cons_append, separatedFrom, hread]
    simp only [ih (Nat.le_of_succ_le_succ hfuel)]

theorem reads_separated (hitem : Reads item grammar ends) (hsep : ∀ rest, ends (sep :: rest)) :
    Reads (separated sep item) (Separated sep grammar) fun rest =>
      ends rest ∧ sep ∉ rest.head? where
  sound := by
    intro cs as rest h
    obtain ⟨a, mid, ha, hmid⟩ := bind_eq_some h
    obtain ⟨w, hw, rfl⟩ := hitem.sound ha
    generalize hfrom : separatedFrom sep item mid.length mid = found at hmid
    obtain ⟨as, rest⟩ := found
    cases hmid
    rcases separatedFrom_sound hitem hfrom with ⟨rfl, rfl⟩ | ⟨ws, hws, rfl⟩
    · exact ⟨w, .last hw, rfl⟩
    · exact ⟨_, .next hw hws, by simp⟩
  complete := by
    rintro _ as rest h ⟨hrest, hend⟩
    cases h with
    | last hw =>
      rw [separated, bind_of_eq (hitem.complete hw hrest)]
      simp only [separatedFrom_of_ne hend]
    | @next w ws a as hw hs =>
      have hfuel : as.length ≤ (sep :: (ws ++ rest)).length := by
        have := hs.length_le
        simp only [List.length_cons, List.length_append]
        omega
      rw [List.append_assoc, List.cons_append, separated,
        bind_of_eq (hitem.complete hw (hsep _))]
      simp only [separatedFrom_complete hitem hsep hs hfuel hrest hend]

end Separators

end Reader

end PolicyDecision.Lexical
