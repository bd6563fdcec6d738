import PolicyDecision.Proofs.Visit.Exactness

/-! The expressions that are evaluated in the course of the evaluation of a root, and what is known of
the variables whenever one of them begins. -/

namespace PolicyDecision

/-- What the duties for an effect evaluate, in order. -/
def dutyExpressions (effect : Effect) (obligations advice : List ObligationExpression) :
    List Expression :=
  ((obligations ++ advice).filter (·.effect == effect)).flatMap ObligationExpression.expressions

namespace Environment

open Stateful NodeEvaluation

/-- The evaluation of the root comes to a node in a state, and so many references may be followed
from there. The body of a policy set comes to those children that its algorithm evaluates. -/
inductive ComesTo (env : Environment) (root : Root) : ℕ → PolicyNode → Progress → Prop
  | root : ComesTo env root env.maxReferenceDepth root.toNode {}
  | child {budget : ℕ} {h : Heading} {children : List PolicyNode} {c : PolicyNode}
      {s s₁ start : Progress} {a : CombiningAlgorithm} {i : Fin _}
      {answer : Except ConfigurationError Decision}
      (parent : ComesTo env root budget (.policySet h children) s)
      (entered : env.entered h s = some s₁) (algorithm : env.algorithms.require h.algorithm = .ok a)
      (asked : .evaluated i start answer ∈
        env.combineTranscript a h (env.nodeChildren (env.enterSet budget) h children)
          { s₁ with enclosing := h.id :: s₁.enclosing, findings := {} })
      (place : children[i.val]? = some c) : ComesTo env root budget c start
  | policyRef {budget : ℕ} {r : Reference} {p : Policy} {s s₁ : Progress}
      (reference : ComesTo env root budget (.policyRef r) s)
      (found : env.resolvePolicy r s = (.ok (.ok p), s₁)) :
      ComesTo env root budget (.policy p) { s₁ with followed := s₁.followed + 1 }
  | policySetRef {budget : ℕ} {r : Reference} {set : PolicySet} {s s₁ : Progress}
      (reference : ComesTo env root (budget + 1) (.policySetRef r) s)
      (found : env.resolvePolicySet r s = (.ok (.ok set), s₁)) :
      ComesTo env root budget set.toNode { s₁ with followed := s₁.followed + 1 }

/-- The body of a policy comes to a rule, in the state in which its algorithm evaluates it. -/
inductive ComesToRule (env : Environment) (root : Root) : Policy → Rule → Progress → Prop
  | rule {budget : ℕ} {p : Policy} {r : Rule} {s s₁ start : Progress} {a : CombiningAlgorithm}
      {i : Fin _} {answer : Except ConfigurationError Decision}
      (policy : ComesTo env root budget (.policy p) s)
      (entered : env.entered p.heading { s with known := ∅ } = some s₁)
      (algorithm : env.algorithms.require p.heading.algorithm = .ok a)
      (asked : .evaluated i start answer ∈
        env.combineTranscript a p.heading (p.rules.map (env.ruleChild p))
          { s₁ with findings := {} })
      (place : p.rules[i.val]? = some r) : ComesToRule env root p r start

/-- In the course of the evaluation of the root, the evaluation of an expression begins among the
definitions of its scope, with so much known of the variables. These are the conditions and the
duties, and what they lead to: definitions of variables nothing is known of yet, and arguments after
those before them. -/
inductive Evaluates (env : Environment) (root : Root) :
    List VariableDefinition → VariableStates → Expression → Prop
  | condition {p : Policy} {r : Rule} {s : Progress} {c : Expression}
      (rule : ComesToRule env root p r s) (target : env.matchTarget (targetOf p r) = .ok .isMatch)
      (condition : r.condition = some c) : Evaluates env root p.definitions s.known c
  | ruleDuty {p : Policy} {r : Rule} {s : Progress} {known known' : VariableStates}
      {before after : List Expression} {e : Expression} {values : List Evaluated}
      (rule : ComesToRule env root p r s) (target : env.matchTarget (targetOf p r) = .ok .isMatch)
      (condition : env.ConditionHolds p r s.known known) (version : env.version.isExtended = true)
      (place : dutyExpressions r.effect r.obligations r.advice = before ++ e :: after)
      (earlier : before.mapM (env.evaluate p.definitions) known = (.ok values, known')) :
      Evaluates env root p.definitions known' e
  | policyDuty {budget : ℕ} {p : Policy} {s s₁ s₂ : Progress} {targetFailed : Bool} {d : Decision}
      {effect : Effect} {known' : VariableStates} {before after : List Expression} {e : Expression}
      {values : List Evaluated} (policy : ComesTo env root budget (.policy p) s)
      (entered : env.entered p.heading { s with known := ∅ } = some s₁)
      (body : env.combine p.heading (p.rules.map (env.ruleChild p)) targetFailed
        { s₁ with findings := {} } = (.ok d, s₂))
      (decided : d.effect? = some effect)
      (place : dutyExpressions effect p.heading.obligations p.heading.advice = before ++ e :: after)
      (earlier : before.mapM (env.evaluate p.definitions) s₂.known = (.ok values, known')) :
      Evaluates env root p.definitions known' e
  | setDuty {budget : ℕ} {h : Heading} {children : List PolicyNode} {s s₁ s₂ : Progress}
      {targetFailed : Bool} {d : Decision} {effect : Effect} {known' : VariableStates}
      {before after : List Expression} {e : Expression} {values : List Evaluated}
      (policySet : ComesTo env root budget (.policySet h children) s)
      (entered : env.entered h s = some s₁)
      (body : env.combine h (env.nodeChildren (env.enterSet budget) h children) targetFailed
        { s₁ with enclosing := h.id :: s₁.enclosing, findings := {} } = (.ok d, s₂))
      (decided : d.effect? = some effect)
      (place : dutyExpressions effect h.obligations h.advice = before ++ e :: after)
      (earlier : before.mapM (env.evaluate []) s₂.known = (.ok values, known')) :
      Evaluates env root [] known' e
  | definition {definitions : List VariableDefinition} {known : VariableStates} {id : String}
      {d : VariableDefinition} (reference : Evaluates env root definitions known (.variableRef id))
      (found : definition? definitions id = some d) (unknown : known.get? id = none) :
      Evaluates env root definitions (known.insert id .pending) d.expression
  | argument {definitions : List VariableDefinition} {known known' : VariableStates} {uri : String}
      {before after : List Expression} {e : Expression} {values : List Evaluated}
      (call : Evaluates env root definitions known (.apply uri (before ++ e :: after)))
      (earlier : before.mapM (env.evaluate definitions) known = (.ok values, known')) :
      Evaluates env root definitions known' e

variable {env : Environment} {root : Root}

section Settled

variable {definitions : List VariableDefinition} {known known' : VariableStates}

/-- Between the expressions of a list nothing is pending that was not before. -/
lemma Settled.mapM {es : List Expression} {values : List Evaluated}
    (h : env.Settled definitions known)
    (hrun : es.mapM (env.evaluate definitions) known = (.ok values, known')) :
    env.Settled definitions known' :=
  (Scoped.mapM fun e _ => Scoped.evaluate e).settled_of_eq h hrun (by simp)

lemma settled_of_asked {children : List Traced}
    (hchildren : ∀ t ∈ children, env.Accounted definitions t) {a : CombiningAlgorithm} {h : Heading}
    {s start : Progress} {i : Fin _} {answer : Except ConfigurationError Decision}
    (hs : env.Settled definitions s.known)
    (hasked : .evaluated i start answer ∈
      env.combineTranscript a h (children.map Traced.child) s) :
    env.Settled definitions start.known := by
  refine (Plan.forall_transcript (P := fun s => env.Settled definitions s.known) _ ?_ ?_ hs _
    hasked).1
  · intro i t d t' _ ht hrun
    obtain ⟨c, hc, -, hchild⟩ := exists_traced children i
    rw [hchild] at hrun
    exact ((hchildren c hc).evaluate t d t' ht hrun).1
  · intro i t m t' ht hrun
    obtain ⟨c, hc, -, hchild⟩ := exists_traced children i
    rw [hchild] at hrun
    rw [(recording_keeps (fun m s' => (hchildren c hc).probe t m s') hrun).1]
    exact ht

end Settled

lemma accounted_tracedRules (p : Policy) :
    ∀ t ∈ p.rules.map (env.tracedRule p), env.Accounted p.definitions t := by
  intro t ht
  obtain ⟨r, -, rfl⟩ := List.mem_map.mp ht
  exact accounted_tracedRule p r

lemma accounted_tracedNodes (budget : ℕ) (h : Heading) (children : List PolicyNode) :
    ∀ t ∈ env.tracedNodes (env.enterSet budget) (env.enterVisit budget) h children,
      env.Accounted [] t := by
  intro t ht
  rw [tracedNodes_eq_map] at ht
  obtain ⟨c, -, rfl⟩ := List.mem_map.mp ht
  exact accounted_tracedNode (accountedFor_node (accountedFor_enterSet budget) c) h

/-- Outside of policies no variable is pending, and the evaluation comes only to nodes below the
root. -/
lemma ComesTo.settled {budget : ℕ} {node : PolicyNode} {s : Progress}
    (h : env.ComesTo root budget node s) :
    env.Settled [] s.known ∧ Reaches env.repository root.toNode node := by
  induction h with
  | root => exact ⟨.start, .start⟩
  | @child budget h children c s s₁ start a i answer _ hentered _ hasked hplace ih =>
    obtain ⟨hknown, hreaches⟩ := ih
    refine ⟨?_, hreaches.child (List.mem_of_getElem? hplace)⟩
    rw [← (entered_eq_some hentered).1] at hknown
    clear hplace
    revert i
    rw [← child_tracedNodes env _ (env.enterVisit budget)]
    intro i hasked
    refine settled_of_asked (accounted_tracedNodes budget h children) ?_ hasked
    exact hknown
  | @policyRef budget r p s s₁ _ hfound ih =>
    obtain ⟨hknown, hreaches⟩ := ih
    obtain rfl : s₁ = s := by simpa only [hfound] using resolvePolicy_keeps env r s
    exact ⟨hknown, hreaches.policyRef (policy?_of_resolvePolicy hfound)⟩
  | @policySetRef budget r set s s₁ _ hfound ih =>
    obtain ⟨hknown, hreaches⟩ := ih
    obtain rfl : s₁ = s := by simpa only [hfound] using resolvePolicySet_keeps env r s
    exact ⟨hknown, hreaches.policySetRef (policySet?_of_resolvePolicySet hfound)⟩

lemma ComesToRule.settled {p : Policy} {r : Rule} {s : Progress} (h : env.ComesToRule root p r s) :
    env.Settled p.definitions s.known ∧ Reaches env.repository root.toNode (.policy p) ∧
      r ∈ p.rules := by
  obtain @⟨budget, p, r, s, s₁, start, a, i, answer, hpolicy, hentered, -, hasked, hplace⟩ := h
  refine ⟨?_, hpolicy.settled.2, List.mem_of_getElem? hplace⟩
  have hknown : env.Settled p.definitions s₁.known := by
    rw [(entered_eq_some hentered).1]
    exact .start
  clear hplace
  revert i
  rw [← child_tracedRules]
  intro i hasked
  refine settled_of_asked (accounted_tracedRules p) ?_ hasked
  exact hknown

/-- What the body of a policy leaves behind is settled in the scope of the policy. -/
lemma settled_of_policyBody {p : Policy} {s s₁ s₂ : Progress} {targetFailed : Bool} {d : Decision}
    (hentered : env.entered p.heading { s with known := ∅ } = some s₁)
    (hbody : env.combine p.heading (p.rules.map (env.ruleChild p)) targetFailed
      { s₁ with findings := {} } = (.ok d, s₂)) : env.Settled p.definitions s₂.known := by
  rw [← child_tracedRules] at hbody
  refine (accounted_combine (accounted_tracedRules p) ?_ hbody).1
  change env.Settled p.definitions s₁.known
  rw [(entered_eq_some hentered).1]
  exact .start

lemma settled_of_setBody {budget : ℕ} {h : Heading} {children : List PolicyNode}
    {s s₁ s₂ : Progress} {targetFailed : Bool} {d : Decision} (hs : env.Settled [] s.known)
    (hentered : env.entered h s = some s₁)
    (hbody : env.combine h (env.nodeChildren (env.enterSet budget) h children) targetFailed
      { s₁ with enclosing := h.id :: s₁.enclosing, findings := {} } = (.ok d, s₂)) :
    env.Settled [] s₂.known := by
  rw [← child_tracedNodes env _ (env.enterVisit budget)] at hbody
  refine (accounted_combine (accounted_tracedNodes budget h children) ?_ hbody).1
  change env.Settled [] s₁.known
  rwa [(entered_eq_some hentered).1]

end Environment
end PolicyDecision
