import PolicyDecision.Request.Individual
import Mathlib.Algebra.BigOperators.Group.List.Basic
import Mathlib.Data.List.Forall2
import Mathlib.Tactic.Common

/-! Combinations of one member from each of several lists, in lexicographic order. -/

namespace PolicyDecision

/-- All ways to take one member from each list, that from the last list fastest. -/
def combinations {α : Type} : List (List α) → List (List α)
  | [] => [[]]
  | l :: ls => l.flatMap fun a => (combinations ls).map (a :: ·)

variable {α β : Type}

lemma mem_combinations {c : List α} {ls : List (List α)} :
    c ∈ combinations ls ↔ List.Forall₂ (· ∈ ·) c ls := by
  induction ls generalizing c with
  | nil => simp [combinations]
  | cons l ls ih => cases c <;> simp [combinations, ih]

lemma combinations_map (f : α → β) (ls : List (List α)) :
    combinations (ls.map (List.map f)) = (combinations ls).map (List.map f) := by
  induction ls with
  | nil => rfl
  | cons l ls ih =>
    rw [List.map_cons, combinations, combinations, ih, List.flatMap_map, List.map_flatMap]
    simp only [List.map_map, Function.comp_def, List.map_cons]

lemma length_combinations (ls : List (List α)) :
    (combinations ls).length = (ls.map List.length).prod := by
  induction ls with
  | nil => rfl
  | cons l ls ih => simp [combinations, List.length_flatMap, ih]

/-- There is no combination if one of the lists has no member. -/
lemma combinations_eq_nil {ls : List (List α)} (h : [] ∈ ls) : combinations ls = [] := by
  induction ls with
  | nil => cases h
  | cons l ls ih =>
    rcases List.mem_cons.mp h with rfl | h
    · rfl
    · simp [combinations, ih h]

/-- Where only the last list has other than one member, its members alone make the combinations. -/
lemma combinations_append_singleton (fixed l : List α) :
    combinations (fixed.map ([·]) ++ [l]) = l.map fun a => fixed ++ [a] := by
  induction fixed with
  | nil => simp [combinations, List.map_eq_flatMap]
  | cons b fixed ih => simp [combinations, ih]

/-- A smaller member from an earlier list comes first, whatever the rest is. -/
lemma pairwise_combinations [LT α] {ls : List (List α)} (h : ∀ l ∈ ls, l.Pairwise (· < ·)) :
    (combinations ls).Pairwise (· < ·) := by
  induction ls with
  | nil => exact List.pairwise_singleton _ _
  | cons l ls ih =>
    obtain ⟨hl, hls⟩ := List.forall_mem_cons.mp h
    refine List.pairwise_flatMap.mpr ⟨fun a _ => ?_, hl.imp fun hlt x hx y hy => ?_⟩
    · exact List.pairwise_map.mpr
        ((ih hls).imp fun hlt => List.cons_lt_cons_iff.mpr (.inr ⟨rfl, hlt⟩))
    · obtain ⟨x, -, rfl⟩ := List.mem_map.mp hx
      obtain ⟨y, -, rfl⟩ := List.mem_map.mp hy
      exact List.cons_lt_cons_iff.mpr (.inl hlt)

/-- Combinations that are begun go on with those of the lists that are left. -/
lemma foldl_eq_flatMap_combinations (ls begun : List (List α)) :
    ls.foldl (fun begun l => begun.flatMap fun c => l.map (c ++ [·])) begun =
      begun.flatMap fun c => (combinations ls).map (c ++ ·) := by
  induction ls generalizing begun with
  | nil => simp [combinations]
  | cons l ls ih =>
    rw [List.foldl_cons, ih, combinations, List.flatMap_assoc]
    simp [List.flatMap_map, List.map_flatMap, Function.comp_def]

namespace Request

lemma choices_eq_combinations (groups : List (List Block)) :
    choices groups = combinations groups := by
  rw [choices, foldl_eq_flatMap_combinations]
  simp

lemma choices_cons (group : List Block) (groups : List (List Block)) :
    choices (group :: groups) = group.flatMap fun b => (choices groups).map (b :: ·) := by
  rw [choices_eq_combinations, choices_eq_combinations, combinations]

end Request

end PolicyDecision
