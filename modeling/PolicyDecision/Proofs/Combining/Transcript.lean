import PolicyDecision.Proofs.Stateful

/-! What a plan asks its children in a run, and the combined decision in terms of it. -/

namespace PolicyDecision

/-- A question to a child, the state in which it was asked, and the answer. -/
inductive Event (n : ℕ)
  | evaluated (child : Fin n) (start : Progress) (answer : Except ConfigurationError Decision)
  | probed (child : Fin n) (start : Progress) (answer : Except ConfigurationError MatchResult)

/-- Whether the answer shows that a child applies, or may apply. -/
def Event.applies {n : ℕ} : Event n → Bool
  | evaluated _ _ (.ok d) => d != .notApplicable
  | probed _ _ (.ok m) => m != .noMatch
  | _ => false

/-- The state in which the question was asked. -/
def Event.start {n : ℕ} : Event n → Progress
  | evaluated _ start _ | probed _ start _ => start

/-- The answer is the one that the child gives in that state. -/
def Event.AnsweredBy {n : ℕ} (evaluate : Fin n → NodeEvaluation Decision)
    (probe : Fin n → NodeEvaluation MatchResult) : Event n → Prop
  | evaluated i start answer => answer = (evaluate i start).1
  | probed i start answer => answer = (probe i start).1

namespace Plan

variable {n : ℕ} (evaluate : Fin n → NodeEvaluation Decision)
  (probe : Fin n → NodeEvaluation MatchResult)

/-- The questions of a run, in order. -/
def transcript : Plan n → Progress → List (Event n)
  | .decide _, _ => []
  | .evaluate i next, s =>
    .evaluated i s (evaluate i s).1 ::
      match evaluate i s with
      | (.ok d, s') => (next d).transcript s'
      | (.error _, _) => []
  | .probe i next, s =>
    .probed i s (probe i s).1 ::
      match probe i s with
      | (.ok m, s') => (next m).transcript s'
      | (.error _, _) => []

variable {evaluate probe} {i : Fin n} {s s' : Progress}

lemma transcript_evaluate {d : Decision} (h : evaluate i s = (.ok d, s'))
    (next : Decision → Plan n) :
    (Plan.evaluate i next).transcript evaluate probe s =
      .evaluated i s (.ok d) :: (next d).transcript evaluate probe s' := by
  rw [transcript, h]

lemma transcript_probe {m : MatchResult} (h : probe i s = (.ok m, s'))
    (next : MatchResult → Plan n) :
    (Plan.probe i next).transcript evaluate probe s =
      .probed i s (.ok m) :: (next m).transcript evaluate probe s' := by
  rw [transcript, h]

/-- What the children keep when they are asked holds whenever one of them is asked. -/
theorem forall_transcript {P : Progress → Prop} (plan : Plan n)
    (hevaluate : ∀ i t d t', .evaluated i t (.ok d) ∈ plan.transcript evaluate probe s → P t →
      evaluate i t = (.ok d, t') → P t')
    (hprobe : ∀ i t m t', P t → probe i t = (.ok m, t') → P t') (hs : P s) :
    ∀ event ∈ plan.transcript evaluate probe s,
      P event.start ∧ event.AnsweredBy evaluate probe := by
  induction plan generalizing s with
  | decide d => exact fun _ h => absurd h List.not_mem_nil
  | evaluate i next ih =>
    rcases hx : evaluate i s with ⟨e | d, s'⟩
    · rw [transcript, hx]
      exact List.forall_mem_singleton.mpr ⟨hs, by rw [Event.AnsweredBy, hx]⟩
    · rw [transcript_evaluate hx] at hevaluate ⊢
      refine List.forall_mem_cons.mpr ⟨⟨hs, by rw [Event.AnsweredBy, hx]⟩, ?_⟩
      refine ih d (fun j t d t' ht => hevaluate j t d t' (List.mem_cons_of_mem _ ht)) ?_
      exact hevaluate i s d s' List.mem_cons_self hs hx
  | probe i next ih =>
    rcases hx : probe i s with ⟨e | m, s'⟩
    · rw [transcript, hx]
      exact List.forall_mem_singleton.mpr ⟨hs, by rw [Event.AnsweredBy, hx]⟩
    · rw [transcript_probe hx] at hevaluate ⊢
      refine List.forall_mem_cons.mpr ⟨⟨hs, by rw [Event.AnsweredBy, hx]⟩, ?_⟩
      exact ih m (fun j t d t' ht => hevaluate j t d t' (List.mem_cons_of_mem _ ht))
        (hprobe i s m s' hs hx)

end Plan

open Stateful NodeEvaluation Environment

/-- Looks at a target and records why it could not be evaluated. -/
def NodeEvaluation.recording (x : NodeEvaluation MatchResult) : NodeEvaluation MatchResult := do
  let m ← x
  match m with
  | .indeterminate e => record e
  | _ => pure ()
  return m

lemma noteDecision_eq_bind (x : NodeEvaluation Decision) (b : Bool) :
    noteDecision x b = x >>= fun d => pure (d, b || d != .notApplicable) := by
  change StateT.run (noteDecision x) b = _
  simp only [noteDecision, StateT.run_bind, StateT.run_monadLift, monadLift_self, bind_assoc,
    pure_bind]
  congr 1
  funext d
  cases d <;> cases b <;> rfl

lemma noteDecision_apply (x : NodeEvaluation Decision) (b : Bool) (s : Progress) :
    noteDecision x b s = match x s with
      | (.ok d, s') => (.ok (d, b || d != .notApplicable), s')
      | (.error e, s') => (.error e, s') := by
  rw [noteDecision_eq_bind, bind_apply]
  rcases x s with ⟨_ | _, _⟩ <;> rfl

lemma noteMatch_eq_bind (x : NodeEvaluation MatchResult) (b : Bool) :
    noteMatch x b = recording x >>= fun m => pure (m, b || (m != .noMatch)) := by
  change StateT.run (noteMatch x) b = _
  simp only [noteMatch, recording, StateT.run_bind, StateT.run_monadLift, monadLift_self,
    bind_assoc, pure_bind]
  congr 1
  funext m
  cases m <;> cases b <;> rfl

lemma noteMatch_apply (x : NodeEvaluation MatchResult) (b : Bool) (s : Progress) :
    noteMatch x b s = match recording x s with
      | (.ok m, s') => (.ok (m, b || (m != .noMatch)), s')
      | (.error e, s') => (.error e, s') := by
  rw [noteMatch_eq_bind, bind_apply]
  rcases recording x s with ⟨_ | _, _⟩ <;> rfl

/-- A run that notes whether a child applied is a run beside which the transcript is read. -/
theorem Plan.run_noted {n : ℕ} (evaluate : Fin n → NodeEvaluation Decision)
    (probe : Fin n → NodeEvaluation MatchResult) (plan : Plan n) (b : Bool) (s : Progress) :
    plan.run (fun i => noteDecision (evaluate i)) (fun i => noteMatch (probe i)) b s =
      ((plan.run evaluate (fun i => recording (probe i)) s).1.map fun d =>
          (d, b || (plan.transcript evaluate (fun i => recording (probe i)) s).any Event.applies),
        (plan.run evaluate (fun i => recording (probe i)) s).2) := by
  induction plan generalizing b s with
  | decide d => simp [Plan.run, transcript, Except.map]; rfl
  | evaluate i next ih =>
    have hrun : (Plan.evaluate i next).run (fun i => noteDecision (evaluate i))
        (fun i => noteMatch (probe i)) b s = (noteDecision (evaluate i) b >>= fun p =>
          (next p.1).run (fun i => noteDecision (evaluate i))
            (fun i => noteMatch (probe i)) p.2 : NodeEvaluation _) s := rfl
    rw [hrun, bind_apply, noteDecision_apply, Plan.run, bind_apply, transcript]
    rcases evaluate i s with ⟨e | d, s'⟩
    · rfl
    · simp only [ih, Event.applies, List.any_cons, Bool.or_assoc]
  | probe i next ih =>
    have hrun : (Plan.probe i next).run (fun i => noteDecision (evaluate i))
        (fun i => noteMatch (probe i)) b s = (noteMatch (probe i) b >>= fun p =>
          (next p.1).run (fun i => noteDecision (evaluate i))
            (fun i => noteMatch (probe i)) p.2 : NodeEvaluation _) s := rfl
    rw [hrun, bind_apply, noteMatch_apply, Plan.run, bind_apply, transcript]
    rcases recording (probe i) s with ⟨e | m, s'⟩
    · rfl
    · simp only [ih, Event.applies, List.any_cons, Bool.or_assoc]

/-- The plan that an algorithm makes for the given children. -/
def CombiningAlgorithm.plan {m : Type → Type} (a : CombiningAlgorithm) (children : List (Child m))
    (parameters : List Parameter) (version : Version) : Plan children.length :=
  a children.length (fun i => (children.get i).info) parameters version

lemma CombiningAlgorithm.run_map {m m' : Type → Type} [Monad m'] (a : CombiningAlgorithm)
    (f : Child m → Child m') (hf : ∀ c, (f c).info = c.info) (children : List (Child m))
    (parameters : List Parameter) (version : Version) :
    a.run (children.map f) parameters version = (a.plan children parameters version).run
      (fun i => (f (children.get i)).evaluate) (fun i => (f (children.get i)).probe) := by
  have key : ∀ (k : ℕ) (h : k = (children.map f).length), a.run (children.map f) parameters version =
      (a k (fun i => ((children.map f).get (i.cast h)).info) parameters version).run
        (fun i => ((children.map f).get (i.cast h)).evaluate)
        (fun i => ((children.map f).get (i.cast h)).probe) := by
    rintro k rfl
    rfl
  rw [key children.length (by simp), plan]
  simp only [List.get_eq_getElem, Fin.val_cast, List.getElem_map, hf]

end PolicyDecision
