import PolicyDecision.Proofs.Variable.Unfolding
import PolicyDecision.Proofs.Variable.Graph

/-! The search for cycles among variables finds one if there is any. -/

namespace PolicyDecision

open Stateful

/-- What one step of a run over a list preserves holds after the run, and what one step establishes
of its member holds of all of them. -/
lemma foldlM_eq_ok {ε α β : Type} {I : β → Prop} {Q : α → Prop} {f : β → α → Except ε β}
    {l : List α} (hstep : ∀ b a b', a ∈ l → I b → f b a = .ok b' → I b' ∧ Q a) {b b' : β}
    (hb : I b) (h : l.foldlM f b = .ok b') : I b' ∧ ∀ a ∈ l, Q a := by
  induction l generalizing b with
  | nil =>
    cases h
    exact ⟨hb, List.forall_mem_nil _⟩
  | cons a l ih =>
    rw [List.foldlM_cons] at h
    obtain ⟨b₁, hfirst, hrest⟩ := except_bind_eq_ok.mp h
    obtain ⟨hb₁, ha⟩ := hstep b a b₁ List.mem_cons_self hb hfirst
    obtain ⟨hb', hl⟩ := ih (fun b a b' ha => hstep b a b' (List.mem_cons_of_mem _ ha)) hb₁ hrest
    exact ⟨hb', List.forall_mem_cons.mpr ⟨ha, hl⟩⟩

namespace Validation

variable {definitions : List VariableDefinition} {id : String}

lemma isDefined_iff : isDefined definitions id = true ↔ ∃ d, definition? definitions id = some d := by
  rw [isDefined, List.any_eq_true, definition?, ← Option.isSome_iff_exists, List.find?_isSome]

lemma mem_of_isDefined (h : isDefined definitions id = true) :
    id ∈ definitions.map VariableDefinition.id := by
  obtain ⟨d, hd⟩ := isDefined_iff.mp h
  exact List.mem_map.mpr ⟨d, mem_of_definition? hd, id_eq_of_definition? hd⟩

/-- Where all that a variable mentions leads to no cycle, neither does the variable. -/
lemma not_leadsToCycle (h : ∀ next ∈ mentioned definitions id, ¬ LeadsToCycle definitions next) :
    ¬ LeadsToCycle definitions id := by
  rintro ⟨x, hpath, hcycle⟩
  rcases hpath.cases_head with rfl | ⟨next, hnext, hpath⟩
  · obtain ⟨next, hnext, hback⟩ := Relation.TransGen.head'_iff.mp hcycle
    exact h next hnext ⟨id, hback, hcycle⟩
  · exact h next hnext ⟨x, hpath, hcycle⟩

/-- The variables do not lead to a cycle. -/
def Harmless (definitions : List VariableDefinition) (finished : List String) : Prop :=
  ∀ x ∈ finished, ¬ LeadsToCycle definitions x

/-- Variables without repetition that are all defined are no more than the definitions. -/
lemma length_le_of_nodup {path : List String} (hnodup : path.Nodup)
    (hdefined : ∀ x ∈ path, isDefined definitions x = true) : path.length ≤ definitions.length := by
  have hsub : path ⊆ definitions.map VariableDefinition.id :=
    fun x hx => mem_of_isDefined (hdefined x hx)
  simpa using (hnodup.subperm hsub).length_le

lemma not_leadsToCycle_of_skipped {finished : List String} {next : String}
    (hfinished : Harmless definitions finished)
    (h : (finished.contains next || !isDefined definitions next) = true) :
    ¬ LeadsToCycle definitions next := by
  rcases Bool.or_eq_true_iff.mp h with hknown | hundefined
  · exact hfinished next (List.contains_iff_mem.mp hknown)
  · cases hd : definition? definitions next with
    | none => exact not_leadsToCycle (by simp [mentioned_of_undefined hd])
    | some d => simp [isDefined_iff.mpr ⟨d, hd⟩] at hundefined

/-- What a visit adds to the finished variables is harmless, and so is the visited variable. A path
of defined variables without repetition leaves enough fuel to go on. -/
lemma visit_eq_ok {fuel : ℕ} {path finished finished' : List String}
    (hnodup : (path ++ [id]).Nodup) (hdefined : ∀ x ∈ path ++ [id], isDefined definitions x = true)
    (hfuel : definitions.length ≤ path.length + fuel) (hfinished : Harmless definitions finished)
    (h : visit definitions fuel path finished id = .ok finished') :
    Harmless definitions finished' ∧ ¬ LeadsToCycle definitions id := by
  induction fuel generalizing path finished finished' id with
  | zero =>
    have hle := length_le_of_nodup hnodup hdefined
    rw [List.length_append, List.length_singleton] at hle
    omega
  | succ fuel ih =>
    obtain ⟨found, hfold, h⟩ := except_bind_eq_ok.mp h
    cases h
    have hrun : Harmless definitions found ∧
        ∀ next ∈ mentioned definitions id, ¬ LeadsToCycle definitions next := by
      refine foldlM_eq_ok (fun finished next finished' _ hfinished hnext => ?_) hfinished hfold
      split at hnext
      · cases hnext
      · rename_i hfresh
        split at hnext
        · rename_i hskipped
          cases hnext
          exact ⟨hfinished, not_leadsToCycle_of_skipped hfinished hskipped⟩
        · rename_i hunknown
          have hnew : isDefined definitions next = true := by
            by_contra hundefined
            exact hunknown (by simp [hundefined])
          have hnot : next ∉ path ++ [id] := fun hmem => hfresh (List.contains_iff_mem.mpr hmem)
          have hnodup' : (path ++ [id] ++ [next]).Nodup :=
            (List.perm_append_singleton next _).nodup_iff.mpr (List.nodup_cons.mpr ⟨hnot, hnodup⟩)
          refine ih hnodup' (fun x hx => ?_) ?_ hfinished hnext
          · rcases List.mem_append.mp hx with hx | hx
            · exact hdefined x hx
            · rwa [List.mem_singleton.mp hx]
          · rw [List.length_append, List.length_singleton]
            omega
    have hid := not_leadsToCycle hrun.2
    refine ⟨fun x hx => ?_, hid⟩
    rcases List.mem_append.mp hx with hx | hx
    · exact hrun.1 x hx
    · rwa [List.mem_singleton.mp hx]

/-- If the search finds no cycle then no variable leads to one. -/
theorem not_leadsToCycle_of_findCycle? (h : findCycle? definitions = none) (id : String) :
    ¬ LeadsToCycle definitions id := by
  cases hd : definition? definitions id with
  | none => exact not_leadsToCycle (by simp [mentioned_of_undefined hd])
  | some d =>
    unfold findCycle? at h
    simp only at h
    split at h
    · rename_i finished hfold
      have hrun : Harmless definitions finished ∧
          ∀ d ∈ definitions, ¬ LeadsToCycle definitions d.id := by
        refine foldlM_eq_ok (fun finished d finished' hd hfinished hvisit => ?_)
          (List.forall_mem_nil _) hfold
        split at hvisit
        · rename_i hknown
          cases hvisit
          exact ⟨hfinished, hfinished d.id (List.contains_iff_mem.mp hknown)⟩
        · refine visit_eq_ok (by simp) (fun x hx => ?_) (by simp) hfinished hvisit
          rw [List.mem_singleton.mp hx, isDefined, List.any_eq_true]
          exact ⟨d, hd, by simp⟩
      rw [← id_eq_of_definition? hd]
      exact hrun.2 d (mem_of_definition? hd)
    · cases h

end Validation

end PolicyDecision
