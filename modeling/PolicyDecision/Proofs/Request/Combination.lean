import PolicyDecision.Proofs.FirstOccurrence
import PolicyDecision.Request.Individual

/-! Results taken together. Only results that agree and carry no duties have a decision in common,
and the order of the results does not matter to it. -/

namespace PolicyDecision.EvaluationResult

/-- The results have this decision, and none of them carries obligations or advice. -/
def Agree (d : Decision) (results : List EvaluationResult) : Prop :=
  ∀ r ∈ results, r.decision = d ∧ r.obligations = [] ∧ r.advice = []

section Agree

variable {d : Decision} {results results' : List EvaluationResult}

lemma Agree.perm (h : Agree d results) (hperm : results.Perm results') : Agree d results' :=
  fun r hr => h r (hperm.mem_iff.mpr hr)

/-- What is compared with the first result is compared with all of them. -/
lemma agree_first_iff {first : EvaluationResult} {rest : List EvaluationResult} :
    ((first :: rest).all fun r => r.decision == first.decision && r.isPlain) = true ↔
      Agree first.decision (first :: rest) := by
  simp [Agree, isPlain]

end Agree

/-- Adding members one by one leaves out those that are there already. -/
lemma union_nil {α : Type} [BEq α] [LawfulBEq α] (l : List α) : union [] l = l.eraseDups := by
  unfold union
  induction l using List.reverseRecOn with
  | nil => rfl
  | append_singleton l a ih =>
    rw [List.foldl_append, ih, List.foldl_cons, List.foldl_nil, eraseDups_concat]
    simp only [List.contains_iff_mem, List.mem_eraseDups]

section Combine

variable {d : Decision} {results : List EvaluationResult}

lemma combine_of_agree (hresults : results ≠ []) (h : Agree d results) :
    combine results =
      { decision := d
        status := if d.isIndeterminate then (results.head hresults).status else .ok
        applicablePolicies := (results.flatMap (·.applicablePolicies)).eraseDups } := by
  obtain ⟨first, rest, rfl⟩ := List.exists_cons_of_ne_nil hresults
  obtain rfl : first.decision = d := (h first List.mem_cons_self).1
  rw [combine, if_pos (agree_first_iff.mpr h), union_nil]
  rfl

lemma combine_of_not_agree (hresults : results ≠ []) (h : ¬ ∃ d, Agree d results) :
    combine results = indeterminate .notCombinable := by
  obtain ⟨first, rest, rfl⟩ := List.exists_cons_of_ne_nil hresults
  rw [combine, if_neg (fun hall => h ⟨_, agree_first_iff.mp hall⟩)]

/-- A common decision is the decision of every result. -/
lemma decision_combine_iff (hresults : results ≠ []) (hd : d ≠ .indeterminate) :
    (combine results).decision = d ↔ Agree d results := by
  by_cases h : ∃ d, Agree d results
  · obtain ⟨d', h⟩ := h
    rw [combine_of_agree hresults h]
    constructor
    · rintro rfl
      exact h
    · intro hagree
      obtain ⟨r, hr⟩ := List.exists_mem_of_ne_nil _ hresults
      exact (h r hr).1.symm.trans (hagree r hr).1
  · rw [combine_of_not_agree hresults h]
    exact ⟨fun hindeterminate => absurd hindeterminate.symm hd, fun hagree => absurd ⟨d, hagree⟩ h⟩

end Combine

/-- A combined decision other than a plain indeterminate one is that of all the results, none of
which carries duties. The order of the results does not matter to the decision, nor to the status
code where it is not that of an indeterminate decision which all results share. Where the results
agree without duties, the policies are those of all results, each once and in the order in which
they first occur. -/
theorem combine_conservative {results : List EvaluationResult} (hresults : results ≠ []) :
    (∀ d ≠ .indeterminate, (combine results).decision = d ↔
      ∀ r ∈ results, r.decision = d ∧ r.obligations = [] ∧ r.advice = []) ∧
    (∀ results', results.Perm results' →
      (combine results').decision = (combine results).decision ∧
        ((¬ ∃ d : Decision, d.isIndeterminate = true ∧ ∀ r ∈ results, r.decision = d) →
          (combine results').status.code = (combine results).status.code)) ∧
    ∀ d, (∀ r ∈ results, r.decision = d ∧ r.obligations = [] ∧ r.advice = []) →
      let policies := (combine results).applicablePolicies
      let listed := results.flatMap (·.applicablePolicies)
      (combine results).decision = d ∧ policies.Nodup ∧
        (∀ p, p ∈ policies ↔ ∃ r ∈ results, p ∈ r.applicablePolicies) ∧
        policies.Pairwise fun p q => listed.idxOf p < listed.idxOf q := by
  refine ⟨fun d hd => decision_combine_iff hresults hd, fun results' hperm => ?_, fun d h => ?_⟩
  · have hresults' : results' ≠ [] := by
      rintro rfl
      exact hresults hperm.eq_nil
    by_cases h : ∃ d, Agree d results
    · obtain ⟨d, h⟩ := h
      rw [combine_of_agree hresults h, combine_of_agree hresults' (h.perm hperm)]
      refine ⟨rfl, fun hshared => ?_⟩
      have hd : ¬ d.isIndeterminate = true := fun hd => hshared ⟨d, hd, fun r hr => (h r hr).1⟩
      simp only [if_neg hd]
    · have h' : ¬ ∃ d, Agree d results' := fun ⟨d, h'⟩ => h ⟨d, h'.perm hperm.symm⟩
      rw [combine_of_not_agree hresults h, combine_of_not_agree hresults' h']
      exact ⟨rfl, fun _ => rfl⟩
  · rw [combine_of_agree hresults h]
    refine ⟨rfl, nodup_eraseDups _, fun p => ?_, pairwise_idxOf_eraseDups _⟩
    rw [List.mem_eraseDups, List.mem_flatMap]

/-- A result that names policies. -/
def naming (d : Decision) (ids : List String) : EvaluationResult where
  decision := d
  status := .ok
  applicablePolicies := ids.map fun id => ⟨.policy, id, "1.0"⟩

/-- The policy of the day is named twice. -/
def shifts : List EvaluationResult := [naming .permit ["day"], naming .permit ["night", "day"]]

theorem combine_shifts : shifts ≠ [] ∧ (combine shifts).decision = .permit ∧
    (combine shifts.reverse).status.code = (combine shifts).status.code ∧
    (combine shifts).applicablePolicies.Nodup := by
  have hresults : shifts ≠ [] := List.cons_ne_nil _ _
  obtain ⟨hdecision, hperm, hpolicies⟩ := combine_conservative hresults
  have hagree : ∀ r ∈ shifts, r.decision = .permit ∧ r.obligations = [] ∧ r.advice = [] := by
    simp [shifts, naming]
  refine ⟨hresults, (hdecision .permit (by decide)).mpr hagree, ?_, (hpolicies _ hagree).2.1⟩
  refine (hperm _ shifts.reverse_perm.symm).2 ?_
  rintro ⟨d, hd, hall⟩
  rw [← hall _ List.mem_cons_self] at hd
  cases hd

/-- A denial among permits leaves no decision in common. -/
example : (combine [naming .permit ["day"], naming .deny ["night"]]).decision = .indeterminate := rfl

end PolicyDecision.EvaluationResult
