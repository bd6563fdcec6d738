import PolicyDecision.Function.Argument

/-! A search through the combinations of one member from each of several columns. A cursor stands at
one place in each column, and moves on as an odometer does, the last column fastest. -/

namespace PolicyDecision

/-- A place in each of the columns. -/
structure Cursor {α : Type} (columns : List (List α)) where
  places : List Nat
  length_places : places.length = columns.length

namespace Cursor

variable {α : Type} {column : List α} {columns : List (List α)} {place position : Nat}
  {places next : List Nat}

def first (columns : List (List α)) : Cursor columns :=
  ⟨List.replicate columns.length 0, List.length_replicate⟩

/-- The members of the columns at the places. -/
def membersAt (columns : List (List α)) (places : List Nat) : List α :=
  (places.zip columns).filterMap fun (place, column) => column[place]?

/-- Moves on by one place in the last column before the position that has another one. The columns
that it carries over begin again. -/
def advance (columns : List (List α)) : Nat → List Nat → Option (List Nat)
  | 0, _ => none
  | position + 1, places =>
    let place := places.getD position 0 + 1
    if place < (columns.getD position []).length then some (places.set position place)
    else advance columns position (places.set position 0)

theorem advance_succ (columns : List (List α)) (position : Nat) (places : List Nat) :
    advance columns (position + 1) places =
      if places.getD position 0 + 1 < (columns.getD position []).length then
        some (places.set position (places.getD position 0 + 1))
      else advance columns position (places.set position 0) :=
  rfl

/-! Each step brings the cursor nearer to the end, since a column that is carried over has less to
begin again with than one place in the column before it is worth. -/

/-- The number of places of a cursor. A column without members counts as one place. -/
def total : List (List α) → Nat
  | [] => 1
  | column :: columns => max 1 column.length * total columns

/-- The number of steps until the end. -/
def left : List (List α) → List Nat → Nat
  | column :: columns, place :: places =>
    (column.length - 1 - place) * total columns + left columns places
  | _, _ => 0

theorem left_lt_total (columns : List (List α)) (places : List Nat) :
    left columns places < total columns := by
  induction columns generalizing places with
  | nil => exact Nat.zero_lt_one
  | cons column columns ih =>
    have hone : total columns ≤ max 1 column.length * total columns :=
      Nat.le_mul_of_pos_left _ (Nat.le_max_left _ _)
    cases places with
    | nil => exact Nat.lt_of_lt_of_le (Nat.lt_of_le_of_lt (Nat.zero_le _) (ih [])) hone
    | cons place places =>
      have hrest := ih places
      have hplaces : column.length - 1 - place + 1 ≤ max 1 column.length := by omega
      have hall := Nat.mul_le_mul_right (total columns) hplaces
      rw [Nat.succ_mul] at hall
      rw [left, total]
      omega

/-- The columns after the first one move on by themselves. Where they cannot, the first one does,
and they begin again. -/
theorem advance_cons (hposition : position ≤ places.length) :
    advance (column :: columns) (position + 1) (place :: places) =
      match advance columns position places with
      | some next => some (place :: next)
      | none =>
        if place + 1 < column.length then
          some ((place + 1) :: (List.replicate position 0 ++ places.drop position))
        else none := by
  induction position generalizing places with
  | zero => simp [advance]
  | succ position ih =>
    rw [advance_succ, advance_succ columns]
    simp only [List.getD_cons_succ, List.set_cons_succ]
    split
    · rfl
    · have hdrop : (places.set position 0).drop position = 0 :: places.drop (position + 1) := by
        rw [List.drop_eq_getElem_cons (by rwa [List.length_set]), List.getElem_set_self,
          List.drop_set_of_lt (Nat.lt_succ_self _)]
      rw [ih (by rw [List.length_set]; omega), hdrop, List.replicate_succ', List.append_assoc]
      rfl

theorem length_of_advance (h : advance columns position places = some next) :
    next.length = places.length := by
  induction position generalizing places with
  | zero => cases h
  | succ position ih =>
    rw [advance_succ] at h
    split at h
    · cases h
      rw [List.length_set]
    · rw [ih h, List.length_set]

theorem left_advance (hplaces : places.length = columns.length)
    (h : advance columns columns.length places = some next) :
    left columns next < left columns places := by
  induction columns generalizing places next with
  | nil => cases h
  | cons column columns ih =>
    cases places with
    | nil => cases hplaces
    | cons place places =>
      have hplaces := Nat.succ.inj hplaces
      rw [List.length_cons, advance_cons (Nat.le_of_eq hplaces.symm)] at h
      split at h
      · next rest hrest =>
        cases h
        exact Nat.add_lt_add_left (ih hplaces hrest) _
      · split at h
        · next hlt =>
          cases h
          have hagain := left_lt_total columns
            (List.replicate columns.length 0 ++ places.drop columns.length)
          have hplace : column.length - 1 - place = column.length - 1 - (place + 1) + 1 := by omega
          rw [left, left, hplace, Nat.succ_mul]
          omega
        · cases h

def next? (c : Cursor columns) : Option (Cursor columns) :=
  match h : advance columns columns.length c.places with
  | none => none
  | some next => some ⟨next, (length_of_advance h).trans c.length_places⟩

theorem left_next {c next : Cursor columns} (h : c.next? = some next) :
    left columns next.places < left columns c.places := by
  unfold next? at h
  split at h
  · cases h
  · next hnext =>
    cases h
    exact left_advance c.length_places hnext

/-- Tries the combinations from the cursor on, until one holds or cannot be tried. -/
def search (holds : List α → Outcome Bool) (c : Cursor columns) : Outcome Bool := do
  if ← holds (membersAt columns c.places) then return true
  match _h : c.next? with
  | none => return false
  | some next => search holds next
termination_by left columns c.places
decreasing_by exact left_next ‹_›

end Cursor

end PolicyDecision
