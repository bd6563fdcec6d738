import PolicyDecision.Proofs.Visit.Findings

/-! Effects turned into others, throughout decisions, duties, findings and plans. -/

namespace PolicyDecision

section Turned

variable (turn : Effect → Effect)

namespace Decision

/-- The decision with its effect turned. -/
def turned : Decision → Decision
  | permit => (turn .permit).decision
  | deny => (turn .deny).decision
  | indeterminateP => (turn .permit).indeterminate
  | indeterminateD => (turn .deny).indeterminate
  | d => d

@[simp] lemma turned_id (d : Decision) : d.turned id = d := by cases d <;> rfl

@[simp] lemma turned_decision (e : Effect) : e.decision.turned turn = (turn e).decision := by
  cases e <;> rfl

@[simp] lemma turned_eq_notApplicable {d : Decision} :
    d.turned turn = notApplicable ↔ d = notApplicable := by
  cases d <;> simp [turned] <;> cases turn _ <;> simp [Effect.decision, Effect.indeterminate]

@[simp] lemma effect?_turned (d : Decision) : (d.turned turn).effect? = d.effect?.map turn := by
  cases d <;> simp [turned, effect?] <;> cases turn _ <;> rfl

@[simp] lemma isIndeterminate_turned (d : Decision) :
    (d.turned turn).isIndeterminate = d.isIndeterminate := by
  cases d with
  | permit => cases h : turn .permit <;> simp [turned, h] <;> rfl
  | deny => cases h : turn .deny <;> simp [turned, h] <;> rfl
  | indeterminateP => cases h : turn .permit <;> simp [turned, h] <;> rfl
  | indeterminateD => cases h : turn .deny <;> simp [turned, h] <;> rfl
  | _ => rfl

lemma promoted_turned (d : Decision) : (d.turned turn).promoted = d.promoted.turned turn := by
  cases d <;> simp [turned, promoted] <;> cases turn _ <;> rfl

end Decision

lemma Version.indeterminate_turned (version : Version) (possible : Option Effect) :
    version.indeterminate (possible.map turn) = (version.indeterminate possible).turned turn := by
  unfold indeterminate
  rcases possible with _ | _ | _ <;> cases version.isExtended <;> rfl

lemma Version.shown_turned (version : Version) (d : Decision) :
    version.shown (d.turned turn) = (version.shown d).turned turn := by
  unfold shown Decision.toLegacy
  rw [Decision.isIndeterminate_turned]
  split
  · rfl
  · split <;> rfl

lemma Environment.finalDecision_turned (version : Version) (applied targetFailed : Bool)
    (d : Decision) : finalDecision version applied targetFailed (d.turned turn) =
      (finalDecision version applied targetFailed d).turned turn := by
  unfold finalDecision
  split
  · rfl
  · split
    · exact d.promoted_turned turn
    · rfl

def Obligation.turned (o : Obligation) : Obligation := { o with effect := turn o.effect }

def Duties.turned (d : Duties) : Duties :=
  ⟨d.obligations.map (·.turned turn), d.advice.map (·.turned turn)⟩

namespace Findings

def turned (f : Findings) : Findings where
  obligations := f.obligations.map (·.turned turn)
  advice := f.advice.map (·.turned turn)
  policies := f.policies.map fun p => (p.1, p.2.map turn)

@[simp] lemma turned_empty : turned turn {} = {} := rfl

lemma turned_append (f g : Findings) :
    (f.append g).turned turn = (f.turned turn).append (g.turned turn) := by
  simp [append, turned]

variable {turn}

/-- What goes with an effect goes with the turned effect once it is turned. -/
lemma restrict_turned (hturn : Function.Injective turn) (f : Findings) (e : Effect) :
    (f.turned turn).restrict (turn e) = (f.restrict e).turned turn := by
  have hduty : (fun o : Obligation => o.effect == turn e) ∘ (Obligation.turned turn) =
      fun o => o.effect == e := by
    funext o
    exact Bool.eq_iff_iff.mpr (by simp [Obligation.turned, hturn.eq_iff])
  have hpolicy : (fun p : PolicyIdentifier × Option Effect => p.2 == some (turn e)) ∘
      (fun p : PolicyIdentifier × Option Effect => (p.1, p.2.map turn)) =
        fun p => p.2 == some e := by
    funext p
    refine Bool.eq_iff_iff.mpr ?_
    cases hp : p.2 <;> simp [hp, hturn.eq_iff]
  simp only [restrict, turned, List.filter_map, hduty, hpolicy]

end Findings

end Turned

@[simp] lemma Duties.turned_id (d : Duties) : d.turned id = d := by
  simp [turned, Obligation.turned]

@[simp] lemma Findings.turned_id (f : Findings) : f.turned id = f := by
  simp [turned, Obligation.turned]

/-- The second plan does after turned answers what the first does. -/
inductive Plan.Turned (turn : Effect → Effect) {n : ℕ} : Plan n → Plan n → Prop
  | decide (d : Decision) : Turned turn (.decide d) (.decide (d.turned turn))
  | evaluate (i : Fin n) {next next' : Decision → Plan n}
      (h : ∀ d, Turned turn (next d) (next' (d.turned turn))) :
      Turned turn (.evaluate i next) (.evaluate i next')
  | probe (i : Fin n) {next next' : MatchResult → Plan n}
      (h : ∀ m, Turned turn (next m) (next' m)) : Turned turn (.probe i next) (.probe i next')

lemma Plan.Turned.refl {n : ℕ} (plan : Plan n) : plan.Turned id plan := by
  induction plan with
  | decide d => simpa using (Turned.decide d : Turned id (.decide d) _)
  | evaluate i next ih =>
    refine .evaluate i fun d => ?_
    rw [Decision.turned_id]
    exact ih d
  | probe i next ih => exact .probe i ih

end PolicyDecision
