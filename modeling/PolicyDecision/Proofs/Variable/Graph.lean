import PolicyDecision.Evaluation.Expression
import PolicyDecision.Validation.Variables
import Mathlib.Data.List.Chain
import Mathlib.Data.List.Perm.Subperm
import Mathlib.Logic.Relation

/-! Which variables mention which, and how far that leads where it leads to no cycle. -/

namespace PolicyDecision

open Relation

/-- The definition of the first variable mentions the second one. -/
def Mentions (definitions : List VariableDefinition) (a b : String) : Prop :=
  b ∈ Validation.mentioned definitions a

/-- The variable takes part in a cycle of definitions or leads to one. -/
def LeadsToCycle (definitions : List VariableDefinition) (id : String) : Prop :=
  ∃ x, ReflTransGen (Mentions definitions) id x ∧ TransGen (Mentions definitions) x x

/-- Some variable of the expression leads to a cycle. -/
def Expression.LeadsToCycle (definitions : List VariableDefinition) (e : Expression) : Prop :=
  ∃ id ∈ e.mentions, PolicyDecision.LeadsToCycle definitions id

variable {definitions : List VariableDefinition} {id : String}

lemma mentioned_of_definition? {d : VariableDefinition} (hd : definition? definitions id = some d) :
    Validation.mentioned definitions id = d.expression.mentions := by
  rw [definition?] at hd
  rw [Validation.mentioned, hd]
  rfl

lemma mentioned_of_undefined (hd : definition? definitions id = none) :
    Validation.mentioned definitions id = [] := by
  rw [definition?] at hd
  rw [Validation.mentioned, hd]
  rfl

/-- A variable leads to a cycle if and only if its definition does. -/
lemma leadsToCycle_iff {d : VariableDefinition} (hd : definition? definitions id = some d) :
    LeadsToCycle definitions id ↔ d.expression.LeadsToCycle definitions := by
  have hmentions : ∀ x, Mentions definitions id x ↔ x ∈ d.expression.mentions := by
    intro x
    rw [Mentions, mentioned_of_definition? hd]
  constructor
  · rintro ⟨x, hpath, hcycle⟩
    rcases hpath.cases_head with rfl | ⟨y, hy, hpath⟩
    · obtain ⟨y, hy, hpath⟩ := TransGen.head'_iff.mp hcycle
      exact ⟨y, (hmentions y).mp hy, id, hpath, hcycle⟩
    · exact ⟨y, (hmentions y).mp hy, x, hpath, hcycle⟩
  · rintro ⟨y, hy, x, hpath, hcycle⟩
    exact ⟨x, ReflTransGen.head ((hmentions y).mpr hy) hpath, hcycle⟩

/-- Every path from the variable on ends within so many definitions. -/
def EndsWithin (definitions : List VariableDefinition) : ℕ → String → Prop
  | 0, id => definition? definitions id = none
  | n + 1, id => ∀ x, Mentions definitions id x → EndsWithin definitions n x

/-- A long way leads through that many definitions, each of which mentions the next. -/
lemma exists_path {n : ℕ} (h : ¬ EndsWithin definitions n id) :
    ∃ path : List String, path.length = n ∧ (id :: path).IsChain (Mentions definitions) ∧
      ∀ x ∈ id :: path, definition? definitions x ≠ none := by
  induction n generalizing id with
  | zero => exact ⟨[], rfl, List.isChain_singleton id, by simpa [EndsWithin] using h⟩
  | succ n ih =>
    simp only [EndsWithin, not_forall] at h
    obtain ⟨x, hx, hfar⟩ := h
    obtain ⟨path, hlength, hchain, hdefined⟩ := ih hfar
    refine ⟨x :: path, by rw [List.length_cons, hlength], ?_, ?_⟩
    · exact List.isChain_cons_cons.mpr ⟨hx, hchain⟩
    · intro y hy
      rcases List.mem_cons.mp hy with rfl | hy
      · intro hnone
        rw [Mentions, mentioned_of_undefined hnone] at hx
        cases hx
      · exact hdefined y hy

/-- A path without a cycle repeats no variable. -/
lemma nodup_of_isChain {path : List String} (hchain : (id :: path).IsChain (Mentions definitions))
    (hcycle : ¬ LeadsToCycle definitions id) : (id :: path).Nodup := by
  have hpairs : (id :: path).Pairwise (TransGen (Mentions definitions)) :=
    (hchain.imp fun _ _ h => TransGen.single h).pairwise
  have hreached : ∀ x ∈ id :: path, ReflTransGen (Mentions definitions) id x := by
    intro x hx
    rcases List.mem_cons.mp hx with rfl | hx
    · exact .refl
    · exact ((List.pairwise_cons.mp hpairs).1 x hx).to_reflTransGen
  refine (List.pairwise_iff_forall_sublist.mpr ?_ : (id :: path).Pairwise (· ≠ ·))
  rintro a b hsub rfl
  have ha : a ∈ id :: path := hsub.subset List.mem_cons_self
  exact hcycle ⟨a, hreached a ha, List.pairwise_iff_forall_sublist.mp hpairs hsub⟩

/-- Where there is no cycle, a path is no longer than there are definitions. -/
theorem endsWithin_length (hcycle : ¬ LeadsToCycle definitions id) :
    EndsWithin definitions definitions.length id := by
  by_contra hfar
  obtain ⟨path, hlength, hchain, hdefined⟩ := exists_path hfar
  have hsub : id :: path ⊆ definitions.map VariableDefinition.id := by
    intro x hx
    obtain ⟨d, hd⟩ := Option.ne_none_iff_exists'.mp (hdefined x hx)
    rw [definition?] at hd
    have hid := List.find?_some hd
    exact List.mem_map.mpr ⟨d, List.mem_of_find?_eq_some hd, by simpa using hid⟩
  have hnodup : (id :: path).Nodup := nodup_of_isChain hchain hcycle
  have hle := (hnodup.subperm hsub).length_le
  rw [List.length_cons, List.length_map, hlength] at hle
  omega

lemma EndsWithin.succ {n : ℕ} (h : EndsWithin definitions n id) :
    EndsWithin definitions (n + 1) id := by
  induction n generalizing id with
  | zero =>
    intro x hx
    rw [Mentions, mentioned_of_undefined h] at hx
    cases hx
  | succ n ih => exact fun x hx => ih (h x hx)

lemma EndsWithin.of_path {n : ℕ} (h : EndsWithin definitions n id) {x : String}
    (hpath : ReflTransGen (Mentions definitions) id x) : EndsWithin definitions n x := by
  induction hpath with
  | refl => exact h
  | tail _ hstep ih => exact ih.succ _ hstep

/-- To lead to a cycle is to go on for longer than there are definitions. -/
theorem leadsToCycle_iff_not_endsWithin :
    LeadsToCycle definitions id ↔ ¬ EndsWithin definitions definitions.length id := by
  refine ⟨?_, fun h => by_contra fun hcycle => h (endsWithin_length hcycle)⟩
  rintro ⟨x, hpath, hcycle⟩ hends
  have hx := hends.of_path hpath
  generalize definitions.length = n at hx
  induction n with
  | zero =>
    obtain ⟨y, hy, -⟩ := TransGen.head'_iff.mp hcycle
    rw [Mentions, mentioned_of_undefined hx] at hy
    cases hy
  | succ n ih =>
    obtain ⟨y, hy, hback⟩ := TransGen.head'_iff.mp hcycle
    exact ih ((hx y hy).of_path hback)

instance decidableEndsWithin (definitions : List VariableDefinition) :
    (n : ℕ) → (id : String) → Decidable (EndsWithin definitions n id)
  | 0, id => decidable_of_iff ((definition? definitions id).isNone = true) Option.isNone_iff_eq_none
  | n + 1, id =>
    have := decidableEndsWithin definitions n
    inferInstanceAs (Decidable (∀ x ∈ Validation.mentioned definitions id,
      EndsWithin definitions n x))

instance (definitions : List VariableDefinition) (id : String) :
    Decidable (LeadsToCycle definitions id) :=
  decidable_of_iff _ leadsToCycle_iff_not_endsWithin.symm

instance (definitions : List VariableDefinition) (e : Expression) :
    Decidable (e.LeadsToCycle definitions) :=
  inferInstanceAs (Decidable (∃ id ∈ e.mentions, LeadsToCycle definitions id))

end PolicyDecision
