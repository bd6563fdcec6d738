import PolicyDecision.Function.Cursor
import PolicyDecision.Proofs.Combinations
import PolicyDecision.Proofs.HigherOrder.Quantifier

/-! The search with a cursor goes through the combinations of its columns in order. One step of the
cursor leaves all the combinations after the one that it stood at. -/

namespace PolicyDecision.Cursor

open HigherOrder Quantifier Stateful

variable {α : Type} {columns : List (List α)} {places next : List ℕ}

/-- Every place is one of a member. -/
def InRange (columns : List (List α)) (places : List ℕ) : Prop :=
  List.Forall₂ (fun place column => place < column.length) places columns

/-- The combinations at the places and after them. -/
def remaining : List (List α) → List ℕ → List (List α)
  | [], _ => [[]]
  | column :: columns, place :: places =>
    match column.drop place with
    | [] => []
    | a :: later => (remaining columns places).map (a :: ·) ++
        later.flatMap fun b => (combinations columns).map (b :: ·)
  | _, [] => []

lemma remaining_cons {column : List α} {place : ℕ} (h : place < column.length) :
    remaining (column :: columns) (place :: places) =
      (remaining columns places).map (column[place] :: ·) ++
        (column.drop (place + 1)).flatMap fun b => (combinations columns).map (b :: ·) := by
  rw [remaining, List.drop_eq_getElem_cons h]

lemma membersAt_cons {column : List α} {place : ℕ} (h : place < column.length) :
    membersAt (column :: columns) (place :: places) =
      column[place] :: membersAt columns places := by
  simp [membersAt, h]

/-- From the first places on, these are all combinations. -/
lemma remaining_first (h : ∀ column ∈ columns, column ≠ []) :
    remaining columns (first columns).places = combinations columns := by
  induction columns with
  | nil => rfl
  | cons column columns ih =>
    obtain ⟨hcolumn, hcolumns⟩ := List.forall_mem_cons.mp h
    cases column with
    | nil => exact absurd rfl hcolumn
    | cons a column =>
      change (remaining columns (first columns).places).map (a :: ·) ++ _ = _
      rw [ih hcolumns]
      rfl

lemma inRange_first (h : ∀ column ∈ columns, column ≠ []) :
    InRange columns (first columns).places := by
  induction columns with
  | nil => exact .nil
  | cons column columns ih =>
    obtain ⟨hcolumn, hcolumns⟩ := List.forall_mem_cons.mp h
    exact .cons (List.length_pos_iff.mpr hcolumn) (ih hcolumns)

lemma InRange.length_eq (h : InRange columns places) : places.length = columns.length :=
  List.Forall₂.length_eq h

lemma InRange.ne_nil (h : InRange columns places) : ∀ column ∈ columns, column ≠ [] := by
  induction h with
  | nil => simp
  | cons hplace _ ih =>
    exact List.forall_mem_cons.mpr ⟨List.length_pos_iff.mp (Nat.zero_lt_of_lt hplace), ih⟩

/-- The first column moves on if the other ones cannot, and these begin again. -/
lemma advance_cons_of_inRange (h : InRange columns places) (column : List α) (place : ℕ) :
    advance (column :: columns) (columns.length + 1) (place :: places) =
      match advance columns columns.length places with
      | some next => some (place :: next)
      | none =>
        if place + 1 < column.length then some ((place + 1) :: (first columns).places)
        else none := by
  rw [advance_cons (Nat.le_of_eq h.length_eq.symm), ← h.length_eq, List.drop_length,
    List.append_nil, h.length_eq]
  rfl

/-- The step of the cursor stays on the members. -/
lemma InRange.advance (h : InRange columns places)
    (hnext : advance columns columns.length places = some next) : InRange columns next := by
  induction h generalizing next with
  | nil => cases hnext
  | @cons place column places columns hplace hplaces ih =>
    rw [List.length_cons, advance_cons_of_inRange hplaces] at hnext
    split at hnext
    case h_1 rest hrest =>
      cases hnext
      exact .cons hplace (ih hrest)
    case h_2 =>
      split at hnext
      case isTrue hlt =>
        cases hnext
        exact .cons hlt (inRange_first (InRange.ne_nil hplaces))
      case isFalse => cases hnext

/-- One step of the cursor leaves all combinations but the one that it stood at. -/
theorem remaining_eq_cons (h : InRange columns places) :
    remaining columns places = membersAt columns places ::
      (advance columns columns.length places).elim [] (remaining columns) := by
  induction h with
  | nil => rfl
  | @cons place column places columns hplace hplaces ih =>
    rw [remaining_cons hplace, membersAt_cons hplace, List.length_cons,
      advance_cons_of_inRange hplaces, ih]
    cases advance columns columns.length places with
    | some next => simp [remaining_cons hplace]
    | none =>
      -- The columns after the first one are done, which leaves the later members of the first.
      have hfirst := remaining_first (InRange.ne_nil hplaces)
      split_ifs with hlt
      · rw [Option.elim_some, remaining_cons hlt, hfirst, List.drop_eq_getElem_cons hlt,
          List.flatMap_cons]
        rfl
      · rw [List.drop_of_length_le (Nat.le_of_not_lt hlt)]
        rfl

lemma map_places_next? (c : Cursor columns) :
    c.next?.map Cursor.places = Cursor.advance columns columns.length c.places := by
  unfold next?
  split
  case h_1 hnext => exact hnext.symm
  case h_2 next hnext => exact hnext.symm

/-- The search goes through the combinations from the cursor on, until one settles it. -/
theorem search_eq_settled (holds : List α → Outcome Bool) (c : Cursor columns)
    (h : InRange columns c.places) :
    c.search holds = any.settled ((remaining columns c.places).map holds) := by
  induction hleft : left columns c.places using Nat.strongRecOn generalizing c with
  | ind n ih =>
    rw [search, remaining_eq_cons h, ← map_places_next?, List.map_cons, settled_cons]
    cases holds (membersAt columns c.places) with
    | error e => rfl
    | ok b =>
      cases b with
      | true => rfl
      | false =>
        cases hnext : c.next? with
        | none => rfl
        | some next =>
          have hplaces := map_places_next? c
          rw [hnext] at hplaces
          exact ih _ (hleft ▸ left_next hnext) next (h.advance hplaces.symm) rfl

/-- From the first members on, it goes through all combinations. -/
theorem search_first (holds : List α → Outcome Bool) (h : ∀ column ∈ columns, column ≠ []) :
    (first columns).search holds = any.settled ((combinations columns).map holds) := by
  rw [search_eq_settled holds _ (inRange_first h), remaining_first h]

end PolicyDecision.Cursor
