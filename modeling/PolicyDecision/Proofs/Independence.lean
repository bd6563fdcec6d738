import PolicyDecision.Proofs.Correspondence.Recursion

/-! The children of a policy set do not influence one another: what one of them answers and adds to
the state depends on the place where it is evaluated and on nothing that was found, known or
recorded before. -/

namespace PolicyDecision.Environment

open Stateful NodeEvaluation Correspondence

variable (env : Environment)

/-- The same place in the policy tree, with the same known variables. -/
def SamePlace (s t : Progress) : Prop :=
  t.known = s.known ∧ t.enclosing = s.enclosing ∧ t.followed = s.followed

variable {env}

/-- A parallel between policies says that the first evaluation does not leave its place. -/
lemma samePlace_of_parallels {α : Type} {f : α → α} {x y : NodeEvaluation α}
    (h : (between Function.injective_id Eq).Parallels f x y) {s s' : Progress}
    {r : Except ConfigurationError α} (hx : x s = (r, s')) : SamePlace s s' := by
  obtain ⟨r', added, hknown, hs, -⟩ := h s s rfl
  obtain ⟨-, rfl⟩ := Prod.mk.inj (hx.symm.trans hs)
  exact ⟨by rw [Progress.extended, hknown rfl, Option.getD_none], rfl, rfl⟩

lemma SamePlace.trans {s t u : Progress} (hst : SamePlace s t) (htu : SamePlace t u) :
    SamePlace s u :=
  ⟨htu.1.trans hst.1, htu.2.1.trans hst.2.1, htu.2.2.trans hst.2.2⟩

variable (env)

lemma samePlace_evaluateChild (node : PolicyNode) {s s' : Progress}
    {r : Except ConfigurationError Decision} (h : env.evaluateChild node s = (r, s')) :
    SamePlace s s' :=
  samePlace_of_parallels (env.parallels_self _ node) h

lemma samePlace_probeNode (node : PolicyNode) {s s' : Progress}
    {r : Except ConfigurationError MatchResult} (h : recording (env.probeNode node) s = (r, s')) :
    SamePlace s s' :=
  samePlace_of_parallels (parallels_recording
    (RepositoryAlike.same.parallels_probeNode Function.injective_id (.same node))) h

/-- Between the children of a policy set the place stays the same, whatever the algorithm asks. -/
lemma samePlace_transcript (a : CombiningAlgorithm) (h : Heading) (children : List PolicyNode)
    (s : Progress) : ∀ event ∈ env.combineTranscript a h (children.map (env.evaluatedChild h)) s,
      SamePlace s event.start ∧ event.AnsweredBy
        (fun i => ((children.map (env.evaluatedChild h)).get i).evaluate)
        (fun i => recording ((children.map (env.evaluatedChild h)).get i).probe) := by
  refine Plan.forall_transcript (P := SamePlace s) _ ?_ ?_ ⟨rfl, rfl, rfl⟩
  · intro i t d t' _ ht hrun
    simp only [List.get_eq_getElem, List.getElem_map] at hrun
    exact ht.trans (env.samePlace_evaluateChild _ hrun)
  · intro i t m t' ht hrun
    simp only [List.get_eq_getElem, List.getElem_map] at hrun
    exact ht.trans (env.samePlace_probeNode _ hrun)

/-- A child of a policy set has one outcome and adds the same findings and the same error, whatever
is known, found or recorded before. So it answers a combining algorithm, whatever this has asked its
siblings. -/
theorem evaluateChild_independent (child : PolicyNode) (enclosing : List String) (followed : ℕ) :
    ∃ outcome added error,
      (∀ known findings firstError,
        env.evaluateChild child ⟨known, findings, enclosing, followed, firstError⟩ =
          (outcome,
            ⟨known, findings.append added, enclosing, followed, firstError.or error⟩)) ∧
      ∀ (a : CombiningAlgorithm) (h : Heading) (siblings : List PolicyNode) known findings
        firstError (i : Fin (siblings.map (env.evaluatedChild h)).length) start answer,
        siblings[i.val]? = some child →
        .evaluated i start answer ∈ env.combineTranscript a h
            (siblings.map (env.evaluatedChild h))
            ⟨known, findings, enclosing, followed, firstError⟩ →
          answer = outcome ∧ (env.evaluateChild child start).2 =
            ⟨known, start.findings.append added, enclosing, followed,
              start.firstError.or error⟩ := by
  obtain ⟨outcome, added, hknown, hchild⟩ :=
    env.exists_evaluateNode (env.maxReferenceDepth - followed) child enclosing followed
  have halone : ∀ known findings firstError,
      env.evaluateChild child ⟨known, findings, enclosing, followed, firstError⟩ =
        (outcome, ⟨known, findings.append added.findings, enclosing, followed,
          firstError.or added.error⟩) := by
    intro known findings firstError
    rw [evaluateChild_apply, hchild _ rfl rfl, Progress.extended, hknown, Option.getD_none]
  refine ⟨outcome, added.findings, added.error, halone, ?_⟩
  intro a h siblings known findings firstError i start answer hi hevent
  obtain ⟨hplace, hanswer⟩ := env.samePlace_transcript a h siblings _ _ hevent
  obtain ⟨hknown', henclosing, hfollowed⟩ : start.known = known ∧ start.enclosing = enclosing ∧
    start.followed = followed := hplace
  have hstart : start =
      ⟨known, start.findings, enclosing, followed, start.firstError⟩ := by
    rw [← hknown', ← henclosing, ← hfollowed]
  have hrun := halone known start.findings start.firstError
  rw [← hstart] at hrun
  have hchild : ((siblings.map (env.evaluatedChild h)).get i).evaluate =
      env.evaluateChild child := by
    obtain ⟨hlt, rfl⟩ := List.getElem?_eq_some_iff.mp hi
    simp only [List.get_eq_getElem, List.getElem_map]
    rfl
  rw [Event.AnsweredBy, hchild, hrun] at hanswer
  exact ⟨hanswer, by rw [hrun]⟩

end PolicyDecision.Environment
