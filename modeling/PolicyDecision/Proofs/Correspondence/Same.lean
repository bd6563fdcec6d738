import PolicyDecision.Proofs.Attributes.Answers
import PolicyDecision.Proofs.Correspondence.Tree

/-! A node beside itself, where its questions have the same answers. In one environment, what it
answers, and what it adds to the state, depend only on the place where it is evaluated. -/

namespace PolicyDecision

open Stateful NodeEvaluation Environment Correspondence

variable {env env' : Environment}

namespace Correspondence

lemma AlgorithmAlike.same (parameters : List Parameter) (version : Version)
    (x : Except ConfigurationError CombiningAlgorithm) :
    AlgorithmAlike id Eq parameters parameters version x x := by
  cases x with
  | error e => exact .missing e
  | ok a =>
    refine .found fun n info info' h => ?_
    obtain rfl := funext h
    exact .refl _

lemma map_turned_id {α : Type} (x : Except Fault Duties × α) :
    (x.1.map (Duties.turned id), x.2) = x := by
  rcases x with ⟨_ | d, _⟩
  · rfl
  · simp [Except.map]

section Answers

variable {named : Designator → Prop} (h : env.Alike named env')
include h

lemma HeadingAlike.of_answers {definitions : List VariableDefinition}
    (hdefinitions : ∀ d ∈ definitions.flatMap (·.expression.designators), named d)
    {heading : Heading} (hheading : ∀ d ∈ heading.designators, named d) :
    HeadingAlike id Eq env env' definitions definitions heading heading := by
  rw [Heading.designators, List.forall_mem_append] at hheading
  refine ⟨h.version, h.collectPolicies, ⟨rfl, rfl⟩, h.matchTarget_eq hheading.1, ?_,
    fun e known => ?_⟩
  · rw [h.algorithms]
    exact AlgorithmAlike.same _ _ _
  · rw [id, h.evaluateDuties_eq hdefinitions e hheading.2]
    exact (map_turned_id _).symm

/-- A rule without a target asks for what the target of its policy asks for. -/
lemma RuleAlike.of_answers {p : Policy} (hp : ∀ d ∈ p.designators, named d) {r : Rule}
    (hr : r ∈ p.rules) : RuleAlike id env env' p p r r := by
  rw [Policy.designators, List.forall_mem_append, List.forall_mem_append] at hp
  obtain ⟨⟨hheading, hdefinitions⟩, hrules⟩ := hp
  have hrule : ∀ d ∈ r.designators, named d := fun d hd =>
    hrules d (List.mem_flatMap.mpr ⟨r, hr, hd⟩)
  rw [Heading.designators, List.forall_mem_append] at hheading
  rw [Rule.designators, Rule.expressions, List.flatMap_append, List.forall_mem_append,
    List.forall_mem_append] at hrule
  obtain ⟨htarget, hcondition, hduties⟩ := hrule
  refine ⟨rfl, h.matchTarget_eq ?_, ?_, fun known => ?_⟩
  · unfold targetOf
    cases hrt : r.target with
    | none => exact hheading.1
    | some t =>
      rw [hrt] at htarget
      exact htarget
  · cases hrc : r.condition with
    | none => exact .none
    | some e =>
      rw [hrc] at hcondition
      have heq := h.evaluateCondition_eq hdefinitions (e := e) fun d hd =>
        hcondition d (List.mem_flatMap.mpr ⟨e, List.mem_singleton_self e, hd⟩)
      exact .some fun known => congrFun heq known
  · rw [h.evaluateDuties_eq hdefinitions r.effect hduties]
    exact (map_turned_id _).symm

end Answers

end Correspondence

section Answers

variable {named : Designator → Prop} (h : env.Alike named env')
include h

lemma NodeAlike.of_answers {node : PolicyNode} (hnode : ∀ d ∈ node.designators, named d) :
    NodeAlike id Eq env env' node node := by
  induction node using PolicyNode.induction with
  | policy p =>
    rw [PolicyNode.designators] at hnode
    have hp := hnode
    rw [Policy.designators, List.forall_mem_append, List.forall_mem_append] at hp
    exact .policy (.of_answers h hp.1.2 hp.1.1)
      (List.forall₂_same.mpr fun r hr => ⟨.of_answers h hnode hr, rfl⟩)
  | policySet heading children ih =>
    rw [PolicyNode.designators, List.forall_mem_append] at hnode
    refine .policySet (.of_answers h (by simp) hnode.1) rfl
      (List.forall₂_same.mpr fun _ _ => rfl) (List.forall₂_same.mpr fun c hc => ih c hc fun d hd => ?_)
    exact hnode.2 d (PolicyNode.mem_designatorsAll.mpr ⟨c, hc, hd⟩)
  | policyRef r => exact .policyRef r
  | policySetRef r => exact .policySetRef r

lemma RepositoryAlike.of_answers
    (hrepository : ∀ node, env.repository.Yields node → ∀ d ∈ node.designators, named d) :
    RepositoryAlike id Eq env env' where
  version := h.version
  maxReferenceDepth := h.maxReferenceDepth
  policy name constraints := by
    rw [h.repository]
    cases hp : env.repository.policy? name constraints with
    | none => exact .none
    | some p => exact .some (.of_answers h (hrepository _ (.policy hp)))
  policySet name constraints := by
    rw [h.repository]
    cases hs : env.repository.policySet? name constraints with
    | none => exact .none
    | some s => exact .some (.of_answers h (hrepository _ (.policySet hs)))

end Answers

lemma Correspondence.HeadingAlike.same (definitions : List VariableDefinition) (h : Heading) :
    HeadingAlike id Eq env env definitions definitions h h :=
  .of_answers (.refl (fun _ => True) env) (fun _ _ => trivial) fun _ _ => trivial

lemma Correspondence.RuleAlike.same {p : Policy} {r : Rule} (hr : r ∈ p.rules) :
    RuleAlike id env env p p r r :=
  .of_answers (.refl (fun _ => True) env) (fun _ _ => trivial) hr

lemma NodeAlike.same (node : PolicyNode) : NodeAlike id Eq env env node node :=
  .of_answers (.refl (fun _ => True) env) fun _ _ => trivial

lemma RepositoryAlike.same : RepositoryAlike id Eq env env :=
  .of_answers (.refl (fun _ => True) env) fun _ _ _ _ => trivial

namespace Environment

variable (env)

lemma parallels_self (budget : ℕ) (node : PolicyNode) :
    (between Function.injective_id Eq).Parallels id (env.evaluateNode (env.enterSet budget) node)
      (env.evaluateNode (env.enterSet budget) node) := by
  have hself : RepositoryAlike id Eq env env := .same
  exact (parallels_decision rfl).mp (hself.parallels_evaluateNode Function.injective_id
    (hself.parallels_enterSet Function.injective_id budget) node (.same node))

/-- Between the enclosing policy sets and the references followed, a node has one answer and one
contribution. -/
theorem exists_evaluateNode (budget : ℕ) (node : PolicyNode) (enclosing : List String)
    (followed : ℕ) : ∃ outcome added, added.known = none ∧ ∀ s : Progress,
      s.enclosing = enclosing → s.followed = followed →
        env.evaluateNode (env.enterSet budget) node s = (outcome, s.extended added) := by
  let start : Progress := { enclosing, followed }
  let run := env.evaluateNode (env.enterSet budget) node start
  refine ⟨run.1, ⟨none, run.2.findings, run.2.firstError⟩, rfl, fun s henclosing hfollowed => ?_⟩
  obtain ⟨outcome, added, hknown, hrun, hs⟩ :=
    env.parallels_self budget node start s (Prod.ext henclosing.symm hfollowed.symm)
  have hadded : added = ⟨none, run.2.findings, run.2.firstError⟩ := by
    rw [show run = _ from hrun, ← hknown rfl]
    simp [start, Progress.extended]
  rw [hs, ← hadded, show run.1 = outcome from congrArg Prod.fst hrun]
  cases outcome <;> simp [Except.map, between]

end Environment

end PolicyDecision
