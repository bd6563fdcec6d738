import PolicyDecision.Proofs.Correspondence.Recursion
import PolicyDecision.Proofs.Reference.Expansion
import PolicyDecision.Proofs.Visit.Grounds

/-! References are transparent: a policy tree is evaluated as its expansion is. -/

namespace PolicyDecision

open Stateful NodeEvaluation Environment Correspondence

/-- The standard algorithms know no more of the children than which effects they declare. -/
lemma StandardAlgorithm.algorithm_of_hints (a : StandardAlgorithm) {n : ℕ}
    {info info' : Fin n → ChildInfo} (h : ∀ i, (info i).hint = (info' i).hint)
    (parameters : List Parameter) (version : Version) :
    a.algorithm n info parameters version = a.algorithm n info' parameters version := by
  have hoverrides : ∀ dominant, Combining.overrides dominant n info parameters version =
      Combining.overrides dominant n info' parameters version := by
    intro dominant
    rw [Combining.overrides, Combining.overrides, funext h]
  cases a with
  | denyOverrides => exact hoverrides .deny
  | permitOverrides => exact hoverrides .permit
  | _ => rfl

namespace Correspondence

variable {c : Correspondence} {env : Environment} {α : Type}

lemma parallels_follow_left {resolved : NodeEvaluation (Outcome α)} {a : α}
    (hresolved : ∀ s t, c.agree s t → resolved s = (.ok (.ok a), s))
    {evaluate : α → NodeEvaluation Decision} {y : NodeEvaluation Decision}
    (h : c.Parallels id (behindReference (evaluate a)) y) :
    c.Parallels id (env.follow resolved evaluate) y := by
  intro s t hst
  rw [follow_apply, hresolved s t hst]
  exact h s t hst

lemma parallels_probeReference_left {resolved : NodeEvaluation (Outcome α)} {a : α}
    (hresolved : ∀ s t, c.agree s t → resolved s = (.ok (.ok a), s))
    (target : α → Option Target) {y : NodeEvaluation MatchResult}
    (h : c.Parallels id (ofResult (env.matchTarget (target a))) y) :
    c.Parallels id (env.probeReference resolved target) y := by
  intro s t hst
  rw [probeReference, bind_apply, hresolved s t hst]
  exact h s t hst

end Correspondence

namespace Environment

variable (env : Environment)

/-- The policy sets that the evaluation can come to are combined by standard algorithms. -/
def CombinesStandardly (start : PolicyNode) : Prop :=
  ∀ h children a, Reaches env.repository start (.policySet h children) →
    env.algorithms.require h.algorithm = .ok a →
      ∃ standard : StandardAlgorithm, a = standard.algorithm

/-- No path follows too many references, or comes to a reference to a policy set around it. -/
structure Unhindered (start : PolicyNode) : Prop where
  depth : ∀ enclosing followed node, Path env.repository start enclosing followed node →
    followed ≤ env.maxReferenceDepth
  acyclic : ∀ enclosing followed r, Path env.repository start enclosing followed (.policySetRef r) →
    r.id ∉ enclosing

/-- The first evaluation is in the given place; where the second is does not matter. -/
def atPlace (enclosing : List String) (followed : ℕ) : Correspondence :=
  between Function.injective_id fun p _ => p = (enclosing, followed)

variable {env} {start : PolicyNode} {enclosing : List String} {followed : ℕ}

/-- Behind a reference only the first evaluation has followed one more. -/
lemma parallels_followed {x y : NodeEvaluation Decision}
    (h : (atPlace enclosing (followed + 1)).Parallels id x y) :
    (atPlace enclosing followed).Parallels id (behindReference x) y := by
  intro s t hst
  obtain ⟨henclosing, hfollowed⟩ := Prod.mk.inj hst
  obtain ⟨r, added, hknown, hx, hy⟩ := h { s with followed := s.followed + 1 } t
    (Prod.ext henclosing (congrArg (· + 1) hfollowed))
  refine ⟨r, added, hknown, ?_, hy⟩
  simp [behindReference, hx, Progress.extended]

section Resolution

variable (hstart : env.Unhindered start)
include hstart

lemma Unhindered.resolvePolicy {r : Reference} {p : Policy}
    (hpath : Path env.repository start enclosing followed (.policyRef r))
    (hfound : env.repository.policy? r.id r.constraints = some p) :
    ∀ s t, (atPlace enclosing followed).agree s t → env.resolvePolicy r s = (.ok (.ok p), s) := by
  intro s t hst
  obtain ⟨-, hfollowed⟩ := Prod.mk.inj hst
  have hdepth := hstart.depth _ _ _ (hpath.policyRef hfound)
  rw [resolvePolicy_apply, hfollowed, if_neg (by omega), hfound]

lemma Unhindered.resolvePolicySet {r : Reference} {p : PolicySet}
    (hpath : Path env.repository start enclosing followed (.policySetRef r))
    (hfound : env.repository.policySet? r.id r.constraints = some p) :
    ∀ s t, (atPlace enclosing followed).agree s t →
      env.resolvePolicySet r s = (.ok (.ok p), s) := by
  intro s t hst
  obtain ⟨henclosing, hfollowed⟩ := Prod.mk.inj hst
  have hdepth := hstart.depth _ _ _ (hpath.policySetRef hfound)
  have hcycle : ¬ enclosing.contains r.id = true := by
    simpa using hstart.acyclic _ _ _ hpath
  rw [resolvePolicySet_apply, hfollowed, henclosing, if_neg (by omega), if_neg hcycle, hfound]

end Resolution

lemma headingAlike_of_standard {h : Heading}
    (hstandard : ∀ a, env.algorithms.require h.algorithm = .ok a →
      ∃ standard : StandardAlgorithm, a = standard.algorithm) :
    HeadingAlike id (fun i j => i.hint = j.hint) env env [] [] h h :=
  { HeadingAlike.same [] h with
    algorithm := by
      cases ha : env.algorithms.require h.algorithm with
      | error e => exact .missing e
      | ok a =>
        obtain ⟨standard, rfl⟩ := hstandard a ha
        refine .found fun n info info' hinfo => ?_
        rw [standard.algorithm_of_hints hinfo]
        exact .refl _ }

lemma parallels_evaluatePolicy_self (c : Correspondence) (hturn : c.turn = id) (p : Policy) :
    c.Parallels id (env.evaluatePolicy p) (env.evaluatePolicy p) := by
  have hheading : HeadingAlike c.turn Eq env env p.definitions p.definitions p.heading p.heading :=
    hturn ▸ HeadingAlike.same _ _
  exact (parallels_decision hturn).mp (parallels_evaluatePolicy hheading
    (List.forall₂_same.mpr fun r hr => ⟨hturn ▸ RuleAlike.same hr, rfl⟩))

section Expanded

variable (hstart : env.Unhindered start)
include hstart

/-- A probe looks at the target of what a reference leads to. -/
lemma parallels_probeNode_expanded {node node' : PolicyNode}
    (hexpands : Expands env.repository node node')
    (hpath : Path env.repository start enclosing followed node) :
    (atPlace enclosing followed).Parallels id (env.probeNode node) (env.probeNode node') := by
  induction hexpands using Expands.induction with
  | policy p =>
    rw [probeNode]
    exact parallels_matchTarget _
  | policySet h children children' _ _ =>
    rw [probeNode, probeNode]
    exact parallels_matchTarget _
  | policyRef r p found =>
    rw [probeNode_policyRef, probeNode]
    exact parallels_probeReference_left (hstart.resolvePolicy hpath found) _
      (parallels_matchTarget _)
  | policySetRef r s node found expanded _ =>
    rw [probeNode_policySetRef]
    refine parallels_probeReference_left (hstart.resolvePolicySet hpath found) _ ?_
    cases expanded with
    | policySet =>
      rw [probeNode]
      exact parallels_matchTarget _

lemma parallels_evaluateChild_expanded (hstandard : env.CombinesStandardly start)
    {node node' : PolicyNode} (hexpands : Expands env.repository node node')
    (hpath : Path env.repository start enclosing followed node) :
    (atPlace enclosing followed).Parallels id (env.evaluateChild node)
      (env.evaluateChild node') := by
  induction hexpands using Expands.induction generalizing enclosing followed with
  | policy p =>
    rw [evaluateChild_policy]
    exact parallels_evaluatePolicy_self _ rfl p
  | policySet h children children' _ ih =>
    rw [evaluateChild_policySet, evaluateChild_policySet]
    have hheading := headingAlike_of_standard fun a => hstandard h children a hpath.reaches
    have hset : ∀ s t, (atPlace enclosing followed).agree s t →
        (atPlace (h.id :: enclosing) followed).agree
          { s with enclosing := h.id :: s.enclosing }
          { t with enclosing := h.id :: t.enclosing } := by
      intro s t hst
      obtain ⟨henclosing, hfollowed⟩ := Prod.mk.inj hst
      exact Prod.ext (congrArg (h.id :: ·) henclosing) hfollowed
    have hchildren : List.Forall₂
        ((atPlace (h.id :: enclosing) followed).ChildAlike fun i j => i.hint = j.hint)
        (children.map (env.evaluatedChild h)) (children'.map (env.evaluatedChild h)) := by
      rw [List.forall₂_map_left_iff, List.forall₂_map_right_iff]
      refine List.forall₂_iff_zip.mpr ⟨ih.length_eq, fun {c c'} hzip => ?_⟩
      obtain ⟨hc, hchild⟩ := List.forall₂_zip ih hzip
      have hcpath := hpath.child (List.of_mem_zip hzip).1
      exact ⟨rfl, (parallels_decision rfl).mpr (hchild hcpath),
        parallels_probeNode_expanded hstart hc hcpath⟩
    exact (parallels_decision rfl).mp (parallels_evaluateSet (c := atPlace enclosing followed)
      (k := atPlace (h.id :: enclosing) followed) rfl rfl hset hheading hchildren)
  | policyRef r p found =>
    rw [evaluateChild_policyRef, evaluateChild_policy]
    refine parallels_follow_left (hstart.resolvePolicy hpath found) ?_
    exact parallels_followed (parallels_evaluatePolicy_self _ rfl p)
  | policySetRef r s node found _ ih =>
    rw [evaluateChild_policySetRef]
    refine parallels_follow_left (hstart.resolvePolicySet hpath found) ?_
    exact parallels_followed (ih (hpath.policySetRef found))

end Expanded

/-- A policy set has the same result as its expansion, in which no reference is left. -/
theorem evaluateRoot_expanded {s s' : PolicySet}
    (hexpands : Expands env.repository s.toNode s'.toNode) (hunhindered : env.Unhindered s.toNode)
    (hstandard : env.CombinesStandardly s.toNode) :
    s'.toNode.Inline ∧ env.evaluateRoot (.policySet s) = env.evaluateRoot (.policySet s') := by
  refine ⟨hexpands.inline, ?_⟩
  obtain ⟨r, added, -, hleft, hright⟩ := parallels_evaluateChild_expanded hunhindered hstandard
    hexpands .start {} {} rfl
  rw [evaluateRoot_eq_evaluateChild, evaluateRoot_eq_evaluateChild]
  simp only [Root.toNode, hleft, hright]
  cases r <;> simp [atPlace, between, Except.map]

/-- A policy set around a reference to the permitting policy. -/
def group : PolicySet where
  heading := { id := "group", algorithm := "overrides" }
  children := [.policyRef { id := "Permit" }]

/-- A policy set around a reference to a policy set. -/
def grouped : PolicySet where
  heading := { id := "root", algorithm := "overrides" }
  children := [.policySetRef { id := "group" }]

/-- The same without references. -/
def ungrouped : PolicySet where
  heading := grouped.heading
  children := [.policySet group.heading [.policy (deciding .permit)]]

/-- Whatever is asked for, the answer is the permitting policy or the group. Two references may be
followed. -/
def grouping : Environment :=
  { overriding with
    repository := ⟨fun _ _ => some (deciding .permit), fun _ _ => some group⟩
    maxReferenceDepth := 2 }

lemma expands_grouped : Expands grouping.repository grouped.toNode ungrouped.toNode :=
  .policySet (.cons (.policySetRef rfl (.policySet (.cons (.policyRef rfl) .nil))) .nil)

/-- All the paths through the group. -/
lemma path_grouped {enclosing : List String} {followed : ℕ} {node : PolicyNode}
    (h : Path grouping.repository grouped.toNode enclosing followed node) :
    (enclosing, followed, node) ∈ [([], 0, grouped.toNode),
      (["root"], 0, .policySetRef { id := "group" }), (["root"], 1, group.toNode),
      (["group", "root"], 1, .policyRef { id := "Permit" }),
      (["group", "root"], 2, .policy (deciding .permit))] := by
  simp only [List.mem_cons, List.not_mem_nil, or_false, Prod.mk.injEq]
  induction h with
  | start => simp
  | child parent mem ih =>
    rcases ih with ⟨rfl, rfl, h⟩ | ⟨_, _, h⟩ | ⟨rfl, rfl, h⟩ | ⟨_, _, h⟩ | ⟨_, _, h⟩
    · cases h
      simp [grouped] at mem
      simp [mem, grouped]
    · cases h
    · cases h
      simp [group] at mem
      simp [mem, group]
    · cases h
    · cases h
  | policyRef reference found ih =>
    rcases ih with ⟨_, _, h⟩ | ⟨_, _, h⟩ | ⟨_, _, h⟩ | ⟨rfl, rfl, h⟩ | ⟨_, _, h⟩
    · cases h
    · cases h
    · cases h
    · cases found
      simp
    · cases h
  | policySetRef reference found ih =>
    rcases ih with ⟨_, _, h⟩ | ⟨rfl, rfl, h⟩ | ⟨_, _, h⟩ | ⟨_, _, h⟩ | ⟨_, _, h⟩
    · cases h
    · cases found
      simp
    · cases h
    · cases h
    · cases h

lemma unhindered_grouped : grouping.Unhindered grouped.toNode where
  depth enclosing followed node hpath := by
    change followed ≤ 2
    have hmem := path_grouped hpath
    simp only [List.mem_cons, List.not_mem_nil, or_false, Prod.mk.injEq] at hmem
    omega
  acyclic enclosing followed r hpath := by
    have hmem := path_grouped hpath
    simp only [List.mem_cons, List.not_mem_nil, or_false, Prod.mk.injEq] at hmem
    rcases hmem with ⟨_, _, h⟩ | ⟨rfl, _, h⟩ | ⟨_, _, h⟩ | ⟨_, _, h⟩ | ⟨_, _, h⟩ <;> cases h
    simp

lemma combinesStandardly_grouping (start : PolicyNode) : grouping.CombinesStandardly start := by
  intro h children a _ ha
  obtain ⟨standard, -, hstandard⟩ :=
    undefaulted_overriding .permit (.policySet h children) _ h a .start rfl ha
  exact ⟨standard, hstandard⟩

theorem evaluateRoot_ungrouped :
    (grouping.evaluateRoot (.policySet grouped)).map (·.decision) = .ok .permit ∧
      ungrouped.toNode.Inline ∧
      grouping.evaluateRoot (.policySet grouped) = grouping.evaluateRoot (.policySet ungrouped) :=
  ⟨by decide +kernel, evaluateRoot_expanded expands_grouped unhindered_grouped
    (combinesStandardly_grouping _)⟩

end Environment
end PolicyDecision
