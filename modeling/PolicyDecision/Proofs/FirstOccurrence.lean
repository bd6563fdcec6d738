import Mathlib.Data.List.Induction
import Mathlib.Data.List.Nodup
import Mathlib.Tactic.Common

/-! Lists without their repetitions: each member stays where it first occurs. -/

namespace PolicyDecision

variable {α : Type} [BEq α] [LawfulBEq α]

lemma eraseDups_concat (l : List α) (a : α) :
    (l ++ [a]).eraseDups = if a ∈ l then l.eraseDups else l.eraseDups ++ [a] := by
  rw [List.eraseDups_append]
  split
  · rename_i ha
    simp [List.removeAll, ha]
  · rename_i ha
    simp [List.removeAll, ha, List.eraseDups_cons]

/-- Members stand in the order of their first occurrences. -/
lemma pairwise_idxOf_eraseDups (l : List α) :
    l.eraseDups.Pairwise fun a b => l.idxOf a < l.idxOf b := by
  induction l using List.reverseRecOn with
  | nil => exact List.Pairwise.nil
  | append_singleton l a ih =>
    have hold : l.eraseDups.Pairwise fun b c => (l ++ [a]).idxOf b < (l ++ [a]).idxOf c := by
      refine ih.imp_of_mem fun hb hc hlt => ?_
      rw [List.idxOf_append_of_mem (List.mem_eraseDups.mp hb),
        List.idxOf_append_of_mem (List.mem_eraseDups.mp hc)]
      exact hlt
    rw [eraseDups_concat]
    split
    · exact hold
    · rename_i ha
      refine List.pairwise_append.mpr ⟨hold, List.pairwise_singleton _ _, fun b hb c hc => ?_⟩
      obtain rfl := List.mem_singleton.mp hc
      have hb := List.mem_eraseDups.mp hb
      rw [List.idxOf_append_of_mem hb, List.idxOf_append_of_notMem ha]
      exact Nat.lt_add_right _ (List.idxOf_lt_length_of_mem hb)

lemma nodup_eraseDups (l : List α) : l.eraseDups.Nodup := by
  refine (pairwise_idxOf_eraseDups l).imp ?_
  rintro a b hlt rfl
  exact Nat.lt_irrefl _ hlt

end PolicyDecision
