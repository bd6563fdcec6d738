import PolicyDecision.Combining.Registry
import Mathlib.Data.List.Forall2
import Mathlib.Data.List.FinRange

/-! An indeterminate decision stands for several outcomes. Where one effect overrides the other, the
combined decision of version 3.0 stands for the outcomes that the children may have together, and no
decision that does so stands for fewer. -/

namespace PolicyDecision

/-- What a decision may turn out to be once everything can be evaluated. -/
def Decision.outcomes : Decision → List Decision
  | permit => [permit]
  | deny => [deny]
  | notApplicable => [notApplicable]
  | indeterminateP => [permit, notApplicable]
  | indeterminateD => [deny, notApplicable]
  | indeterminateDP | indeterminate => [permit, deny, notApplicable]

/-- Each of the decisions turns out to be one of its outcomes. -/
def Resolution (decisions outcomes : List Decision) : Prop :=
  List.Forall₂ (fun d o => o ∈ d.outcomes) decisions outcomes

lemma exists_resolution (ds : List Decision) : ∃ os, Resolution ds os := by
  induction ds with
  | nil => exact ⟨[], .nil⟩
  | cons d ds ih =>
    obtain ⟨os, hos⟩ := ih
    cases d <;> exact ⟨_, .cons List.mem_cons_self hos⟩

lemma Resolution.deny_mem {ds os : List Decision} (h : Resolution ds os) (hdeny : .deny ∈ ds) :
    .deny ∈ os := by
  induction h with
  | nil => exact hdeny
  | @cons d o ds os ho _ ih =>
    rcases List.mem_cons.mp hdeny with rfl | hdeny
    · rw [List.mem_singleton.mp ho]
      exact List.mem_cons_self
    · exact List.mem_cons_of_mem _ (ih hdeny)

lemma Resolution.isIndeterminate_eq_false {ds os : List Decision} (h : Resolution ds os) :
    ∀ o ∈ os, o.isIndeterminate = false := by
  induction h with
  | nil => exact List.forall_mem_nil _
  | @cons d o ds os ho _ ih =>
    refine List.forall_mem_cons.mpr ⟨?_, ih⟩
    revert ho
    cases d <;> cases o <;> decide

namespace Combining

/-- Of two outcomes the one that counts where a denial wins. -/
def prevailing : Decision → Decision → Decision
  | .deny, _ | _, .deny => .deny
  | .permit, _ | _, .permit => .permit
  | _, _ => .notApplicable

lemma foldl_prevailing_deny (os : List Decision) : os.foldl prevailing .deny = .deny := by
  induction os with
  | nil => rfl
  | cons o os ih => exact ih

lemma foldl_prevailing_of_mem {os : List Decision} (h : .deny ∈ os) (o : Decision) :
    os.foldl prevailing o = .deny := by
  induction os generalizing o with
  | nil => cases h
  | cons o' os ih =>
    rcases List.mem_cons.mp h with rfl | h
    · cases o <;> exact foldl_prevailing_deny os
    · exact ih h _

namespace Tally

/-- The outcomes that the children of a tally may have together, if none of them denies. -/
def outcomes (t : Tally) : List Decision :=
  (if t.permit || t.errorP || t.errorDP then [.permit] else []) ++
    (if t.errorD || t.errorDP then [.deny] else []) ++
    (if t.permit then [] else [.notApplicable])

/-- One more child may have each of its own outcomes, whichever the others have. -/
lemma mem_outcomes_add (t : Tally) {d : Decision} (hd : d ≠ .deny) {o : Decision} :
    o ∈ (t.add d).outcomes ↔ ∃ a ∈ t.outcomes, ∃ b ∈ d.outcomes, prevailing a b = o := by
  obtain ⟨permit, errorD, errorP, errorDP⟩ := t
  cases d with
  | deny => exact absurd rfl hd
  | _ => cases o <;> revert permit errorD errorP errorDP <;> decide

/-- The decision of a tally stands for its outcomes, and for no more than it must. -/
lemma outcomes_decision_subset_iff (t : Tally) (d : Decision) :
    t.decision.outcomes ⊆ d.outcomes ↔ t.outcomes ⊆ d.outcomes := by
  obtain ⟨permit, errorD, errorP, errorDP⟩ := t
  cases d <;> revert permit errorD errorP errorDP <;> decide

/-- What is tallied child by child are the outcomes of all resolutions. -/
lemma mem_outcomes_foldl (t : Tally) {ds : List Decision} (hds : .deny ∉ ds) {o : Decision} :
    o ∈ (ds.foldl add t).outcomes ↔
      ∃ a ∈ t.outcomes, ∃ os, Resolution ds os ∧ os.foldl prevailing a = o := by
  induction ds generalizing t with
  | nil =>
    constructor
    · intro ho
      exact ⟨o, ho, [], .nil, rfl⟩
    · rintro ⟨a, ha, os, hos, rfl⟩
      cases hos
      exact ha
  | cons d ds ih =>
    obtain ⟨hd, hds⟩ := not_or.mp (mt List.mem_cons.mpr hds)
    rw [List.foldl_cons, ih (t.add d) hds]
    constructor
    · rintro ⟨c, hc, os, hos, rfl⟩
      obtain ⟨a, ha, b, hb, rfl⟩ := (t.mem_outcomes_add (Ne.symm hd)).mp hc
      exact ⟨a, ha, b :: os, .cons hb hos, rfl⟩
    · rintro ⟨a, ha, os', hos', rfl⟩
      cases hos' with
      | @cons _ b _ os hb hos =>
        exact ⟨prevailing a b, (t.mem_outcomes_add (Ne.symm hd)).mpr ⟨a, ha, b, hb, rfl⟩, os, hos,
          rfl⟩

end Tally

/-- What is decided where a denial wins. -/
def denying (ds : List Decision) : Decision :=
  if .deny ∈ ds then .deny else (ds.foldl Tally.add {}).decision

lemma denying_ne_indeterminate (ds : List Decision) : denying ds ≠ .indeterminate := by
  unfold denying Tally.decision
  split_ifs <;> decide

/-- Without failures, a tally has seen nothing but permits. -/
lemma Tally.decision_foldl {os : List Decision} (hdeny : .deny ∉ os)
    (h : ∀ o ∈ os, o.isIndeterminate = false) (permit : Bool) :
    (os.foldl add ⟨permit, false, false, false⟩).decision =
      os.foldl prevailing (if permit then .permit else .notApplicable) := by
  induction os generalizing permit with
  | nil => cases permit <;> rfl
  | cons o os ih =>
    obtain ⟨ho, hos⟩ := List.forall_mem_cons.mp h
    have hrest := ih (fun hmem => hdeny (List.mem_cons_of_mem _ hmem)) hos
    cases o with
    | permit => cases permit <;> exact hrest true
    | notApplicable => cases permit <;> exact hrest _
    | deny => exact absurd List.mem_cons_self hdeny
    | _ => cases ho

/-- Of outcomes, the one decided is the one that counts. -/
lemma denying_of_resolution {ds os : List Decision} (h : Resolution ds os) :
    denying os = os.foldl prevailing .notApplicable := by
  by_cases hdeny : .deny ∈ os
  · rw [denying, if_pos hdeny, foldl_prevailing_of_mem hdeny]
  · rw [denying, if_neg hdeny]
    exact Tally.decision_foldl hdeny h.isIndeterminate_eq_false false

/-- The decision stands for exactly what the children may have together, as far as a decision can. -/
lemma outcomes_denying_subset_iff (ds : List Decision) (d : Decision) :
    (denying ds).outcomes ⊆ d.outcomes ↔
      ∀ os, Resolution ds os → denying os ∈ d.outcomes := by
  by_cases hdeny : .deny ∈ ds
  · have hdenying : ∀ os, Resolution ds os → denying os = .deny := fun os hos =>
      if_pos (hos.deny_mem hdeny)
    rw [denying, if_pos hdeny]
    constructor
    · intro hsubset os hos
      rw [hdenying os hos]
      exact hsubset List.mem_cons_self
    · intro hall
      obtain ⟨os, hos⟩ := exists_resolution ds
      have hmem := hall os hos
      rw [hdenying os hos] at hmem
      simpa [Decision.outcomes] using hmem
  · rw [denying, if_neg hdeny, Tally.outcomes_decision_subset_iff]
    constructor
    · intro hsubset os hos
      rw [denying_of_resolution hos]
      refine hsubset ((Tally.mem_outcomes_foldl {} hdeny).mpr ?_)
      exact ⟨.notApplicable, by decide, os, hos, rfl⟩
    · intro hall o ho
      obtain ⟨a, ha, os, hos, rfl⟩ := (Tally.mem_outcomes_foldl {} hdeny).mp ho
      obtain rfl : a = .notApplicable := by simpa [Tally.outcomes] using ha
      rw [← denying_of_resolution hos]
      exact hall os hos

variable {dominant : Effect}

lemma oriented_oriented (dominant : Effect) (d : Decision) :
    oriented dominant (oriented dominant d) = d := by
  cases dominant <;> cases d <;> rfl

lemma mem_outcomes_oriented {d o : Decision} :
    o ∈ (oriented dominant d).outcomes ↔ oriented dominant o ∈ d.outcomes := by
  cases dominant <;> cases d <;> cases o <;> decide

lemma outcomes_oriented_subset {d d' : Decision} (h : d.outcomes ⊆ (oriented dominant d').outcomes) :
    (oriented dominant d).outcomes ⊆ d'.outcomes := by
  intro o ho
  have hmem := h (mem_outcomes_oriented.mp ho)
  rwa [mem_outcomes_oriented, oriented_oriented] at hmem

lemma map_oriented_oriented (dominant : Effect) (ds : List Decision) :
    (ds.map (oriented dominant)).map (oriented dominant) = ds := by
  simp only [List.map_map, Function.comp_def, oriented_oriented, List.map_id']

lemma resolution_oriented {ds os : List Decision} (h : Resolution ds os) :
    Resolution (ds.map (oriented dominant)) (os.map (oriented dominant)) := by
  refine List.forall₂_map_left_iff.mpr (List.forall₂_map_right_iff.mpr (h.imp ?_))
  intro d o ho
  rwa [mem_outcomes_oriented, oriented_oriented]

/-- What is decided when the decisions of the children are known. -/
lemma run_extendedOverridesFrom {n : ℕ} (evaluate : Fin n → Id Decision)
    (probe : Fin n → Id MatchResult) (t : Tally) (is : List (Fin n)) :
    (extendedOverridesFrom dominant t is).run evaluate probe =
      oriented dominant (if .deny ∈ is.map fun i => oriented dominant (evaluate i) then .deny
        else ((is.map fun i => oriented dominant (evaluate i)).foldl Tally.add t).decision) := by
  induction is generalizing t with
  | nil => rfl
  | cons i is ih =>
    have hrun : (extendedOverridesFrom dominant t (i :: is)).run evaluate probe =
        (if oriented dominant (evaluate i) = .deny then .decide dominant.decision
          else extendedOverridesFrom dominant (t.add (oriented dominant (evaluate i))) is :
            Plan n).run evaluate probe := rfl
    rw [hrun]
    by_cases hdeny : oriented dominant (evaluate i) = .deny
    · rw [if_pos hdeny, if_pos (by rw [List.map_cons, hdeny]; exact List.mem_cons_self)]
      cases dominant <;> rfl
    · rw [if_neg hdeny, ih]
      simp only [List.map_cons, List.mem_cons, Ne.symm hdeny, false_or, List.foldl_cons]

end Combining

/-- A child with nothing to it but a decision. -/
def Child.deciding (d : Decision) : Child Id := ⟨{}, d, MatchResult.noMatch⟩

lemma Child.map_evaluate_deciding (ds : List Decision) :
    (ds.map Child.deciding).map Child.evaluate = ds := by
  rw [List.map_map]
  exact List.map_id ds

namespace StandardAlgorithm

variable (dominant : Effect)

/-- The algorithm in which the effect overrides the other. -/
def overriding : Effect → StandardAlgorithm
  | .deny => denyOverrides
  | .permit => permitOverrides

lemma run_overriding (children : List (Child Id)) (parameters : List Parameter) :
    (overriding dominant).algorithm.run children parameters .v3_0 =
      Combining.oriented dominant (Combining.denying
        ((children.map Child.evaluate).map (Combining.oriented dominant))) := by
  have halgorithm : (overriding dominant).algorithm.run children parameters .v3_0 =
      (Combining.extendedOverrides dominant children.length).run
        (fun i => children[i].evaluate) (fun i => children[i].probe) := by
    cases dominant <;> rfl
  have hchildren : (List.finRange children.length).map
      (fun i => Combining.oriented dominant children[i].evaluate) =
        (children.map Child.evaluate).map (Combining.oriented dominant) := by
    rw [← List.ofFn_eq_map, List.map_map]
    exact List.ofFn_getElem_eq_map children fun c => Combining.oriented dominant c.evaluate
  rw [halgorithm, Combining.extendedOverrides, Combining.run_extendedOverridesFrom, hchildren]
  rfl

/-- The decision about children stands for the decisions about everything that the children may turn
out to be, and no decision that does so stands for fewer. -/
theorem overriding_isLeast (children : List (Child Id)) (parameters : List Parameter) :
    let result (cs : List (Child Id)) : Decision :=
      (overriding dominant).algorithm.run cs parameters .v3_0
    let resolved : Set (List (Child Id)) :=
      {cs | Resolution (children.map Child.evaluate) (cs.map Child.evaluate)}
    result children ≠ .indeterminate ∧
      (∀ cs ∈ resolved, result cs ∈ (result children).outcomes) ∧
      ∀ d : Decision, (∀ cs ∈ resolved, result cs ∈ d.outcomes) →
        (result children).outcomes ⊆ d.outcomes := by
  intro result resolved
  have hresult : ∀ cs, result cs = Combining.oriented dominant (Combining.denying
      ((cs.map Child.evaluate).map (Combining.oriented dominant))) := fun cs =>
    run_overriding dominant cs parameters
  refine ⟨?_, ?_, ?_⟩
  · have hdenying := Combining.denying_ne_indeterminate
      ((children.map Child.evaluate).map (Combining.oriented dominant))
    intro hindeterminate
    rw [hresult] at hindeterminate
    apply hdenying
    rw [← Combining.oriented_oriented dominant (Combining.denying _), hindeterminate]
    cases dominant <;> rfl
  · intro cs hcs
    rw [hresult, hresult, Combining.mem_outcomes_oriented, Combining.oriented_oriented]
    exact (Combining.outcomes_denying_subset_iff _ _).mp (List.Subset.refl _) _
      (Combining.resolution_oriented hcs)
  · intro d hall
    rw [hresult]
    refine Combining.outcomes_oriented_subset ?_
    refine (Combining.outcomes_denying_subset_iff _ _).mpr ?_
    intro os hos
    -- The outcomes are turned back and given to children of their own.
    have hresolved : (os.map (Combining.oriented dominant)).map Child.deciding ∈ resolved := by
      have hturned : Resolution _ (os.map (Combining.oriented dominant)) :=
        Combining.resolution_oriented hos
      rw [Combining.map_oriented_oriented] at hturned
      change Resolution _ (((os.map (Combining.oriented dominant)).map Child.deciding).map
        Child.evaluate)
      rwa [Child.map_evaluate_deciding]
    have hmem := hall _ hresolved
    rw [hresult, Child.map_evaluate_deciding, Combining.map_oriented_oriented] at hmem
    rwa [Combining.mem_outcomes_oriented]

/-- These may together permit or deny, and no narrower decision stands for both. -/
example : denyOverrides.algorithm.run [.deciding .permit, .deciding .indeterminateD] [] .v3_0 =
    Decision.indeterminateDP := rfl

end StandardAlgorithm

end PolicyDecision
