/-! Entries under text keys, kept in the order of their keys. -/

namespace PolicyDecision

structure Catalogue (α : Type) where
  entries : List (String × α) := []
  deriving Repr

namespace Catalogue

variable {α : Type}

instance : EmptyCollection (Catalogue α) := ⟨⟨[]⟩⟩

def get? (c : Catalogue α) (key : String) : Option α := c.entries.lookup key

def contains (c : Catalogue α) (key : String) : Bool := (c.get? key).isSome

def size (c : Catalogue α) : Nat := c.entries.length

def isEmpty (c : Catalogue α) : Bool := c.entries.isEmpty

def keys (c : Catalogue α) : List String := c.entries.map (·.1)

def values (c : Catalogue α) : List α := c.entries.map (·.2)

/-- Puts an entry before the first greater key, in place of an entry under the same key. -/
def insertEntry (key : String) (a : α) : List (String × α) → List (String × α)
  | [] => [(key, a)]
  | (k, b) :: rest =>
    if key < k then (key, a) :: (k, b) :: rest
    else if key = k then (key, a) :: rest
    else (k, b) :: insertEntry key a rest

def insert (c : Catalogue α) (key : String) (a : α) : Catalogue α :=
  ⟨insertEntry key a c.entries⟩

def ofList (entries : List (String × α)) : Catalogue α :=
  entries.foldl (fun c (key, a) => c.insert key a) ∅

/-- Adds to the list under a key, which is empty at first. -/
def append (c : Catalogue (List α)) (key : String) (a : α) : Catalogue (List α) :=
  c.insert key ((c.get? key).getD [] ++ [a])

theorem lookup_insertEntry_self (key : String) (a : α) (entries : List (String × α)) :
    (insertEntry key a entries).lookup key = some a := by
  induction entries with
  | nil => simp [insertEntry]
  | cons e rest ih =>
    obtain ⟨k, b⟩ := e
    unfold insertEntry
    split
    · simp
    · split
      · simp
      · rename_i h
        have : (key == k) = false := by simpa using h
        simp [List.lookup_cons, this, ih]

theorem lookup_insertEntry_of_ne {key k : String} (h : k ≠ key) (a : α)
    (entries : List (String × α)) : (insertEntry key a entries).lookup k = entries.lookup k := by
  have hk : (k == key) = false := by simpa using h
  induction entries with
  | nil => simp [insertEntry, List.lookup_cons, hk]
  | cons e rest ih =>
    obtain ⟨k', b⟩ := e
    unfold insertEntry
    split
    · simp [List.lookup_cons, hk]
    · split
      · rename_i he
        simp [List.lookup_cons, ← he, hk]
      · simp only [List.lookup_cons, ih]

@[simp] theorem get?_insert_self (c : Catalogue α) (key : String) (a : α) :
    (c.insert key a).get? key = some a := lookup_insertEntry_self key a c.entries

theorem get?_insert_of_ne (c : Catalogue α) {key k : String} (h : k ≠ key) (a : α) :
    (c.insert key a).get? k = c.get? k := lookup_insertEntry_of_ne h a c.entries

theorem contains_insert_of_contains {c : Catalogue α} {k : String} (h : c.contains k = true)
    (key : String) (a : α) : (c.insert key a).contains k = true := by
  by_cases hk : k = key
  · rw [hk, contains, get?_insert_self, Option.isSome_some]
  · rwa [contains, get?_insert_of_ne c hk]

theorem contains_ofList {entries : List (String × α)} {key : String}
    (h : key ∈ entries.map Prod.fst) : (ofList entries).contains key = true := by
  have hfold : ∀ (entries : List (String × α)) (c : Catalogue α),
      c.contains key = true ∨ key ∈ entries.map Prod.fst →
        (entries.foldl (fun c (k, a) => c.insert k a) c).contains key = true := by
    intro entries
    induction entries with
    | nil => simp
    | cons e entries ih =>
      rintro c (hc | hmem)
      · exact ih _ (Or.inl (contains_insert_of_contains hc e.1 e.2))
      · rcases List.mem_cons.mp hmem with rfl | hmem
        · exact ih _ (Or.inl (by rw [contains, get?_insert_self, Option.isSome_some]))
        · exact ih _ (Or.inr hmem)
  exact hfold entries ∅ (Or.inr h)

theorem contains_ofList_map {β : Type} (f : β → α) {entries : List (String × β)} {key : String}
    (h : key ∈ entries.map Prod.fst) :
    (ofList (entries.map fun (k, b) => (k, f b))).contains key = true := by
  refine contains_ofList ?_
  rw [List.map_map]
  exact h

end Catalogue

end PolicyDecision
