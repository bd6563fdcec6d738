import PolicyDecision.Proofs.Target.Verdict
import PolicyDecision.Proofs.Validation.Checks
import PolicyDecision.Proofs.Validation.Safety

/-! Policies that have passed the checks name only what exists. A decision point answers every
request. -/

namespace PolicyDecision

open Stateful Validation

namespace Environment

/-- The functions and the algorithms are those that the checks know. -/
structure Uses (env : Environment) (l : Libraries) : Prop where
  functions : env.functions = l.functions
  algorithms : env.algorithms = l.algorithms

variable {env : Environment}

section Values

lemma errors_mapError {α : Type} (x : Outcome α) :
    Errors Fault.IsEvaluation (x.mapError Fault.evaluation) := by
  cases x with
  | ok a => exact errors_ok a
  | error e => exact errors_error ⟨e, rfl⟩

lemma errors_requireType {uri : String} (h : checkType uri = .ok ()) :
    Errors Fault.IsEvaluation (requireType uri) := by
  obtain ⟨type, htype⟩ := checkType_eq_ok.mp h
  rw [requireType, htype]
  exact errors_ok type

lemma errors_resolve {literal : Literal} (h : checkType literal.dataType = .ok ()) :
    Errors Fault.IsEvaluation literal.resolve :=
  Literal.errors_resolve (fun e _ => ⟨e, rfl⟩) (errors_requireType h)

lemma errors_attributes {a : AttributeRef} (h : checkType a.dataType = .ok ()) :
    Errors Fault.IsEvaluation (env.attributes a) := by
  cases a with
  | designator d =>
    exact errors_designate (fun e _ => ⟨e, rfl⟩) (errors_requireType h) fun _ => errors_mapError _
  | selector s =>
    exact errors_select (fun e _ => ⟨e, rfl⟩) (errors_requireType h) fun _ => errors_mapError _

end Values

section Targets

lemma exists_orIndeterminate {α : Type} {x : Except Fault α} (h : Errors Fault.IsEvaluation x)
    {next : α → Except ConfigurationError MatchResult} (hnext : ∀ a, ∃ m, next a = .ok m) :
    ∃ m, orIndeterminate x next = .ok m := by
  cases x with
  | ok a => exact hnext a
  | error f =>
    obtain ⟨e, rfl⟩ := h f rfl
    exact ⟨_, rfl⟩

variable {l : Libraries} (henv : env.Uses l)
include henv

lemma exists_matchOne {m : Match} (h : l.checkMatch m = .ok ()) :
    ∃ result, env.matchOne m = .ok result := by
  obtain ⟨hfunction, h⟩ := check_bind_eq_ok.mp h
  obtain ⟨hliteral, hattributes⟩ := check_bind_eq_ok.mp h
  obtain ⟨f, hf⟩ := Libraries.checkFunction_eq_ok.mp hfunction
  rw [matchOne, henv.functions, hf]
  refine exists_orIndeterminate (errors_resolve hliteral) fun literal => ?_
  exact exists_orIndeterminate (errors_attributes hattributes) fun bag => ⟨_, rfl⟩

lemma exists_matchTarget_of_check {target : Option Target} (h : l.checkTarget target = .ok ()) :
    ∃ m, env.matchTarget target = .ok m :=
  exists_matchTarget fun m hm => exists_matchOne henv (check_forM_eq_ok.mp h m hm)

end Targets

section Expressions

variable {l : Libraries} (henv : env.Uses l) {owner : String} {defined : List String}
include henv

lemma errors_require {uri : String} (h : l.checkFunction uri = .ok ()) :
    Errors Fault.IsEvaluation ((env.functions.require uri).mapError .configuration) := by
  obtain ⟨f, hf⟩ := Libraries.checkFunction_eq_ok.mp h
  rw [henv.functions, hf]
  exact errors_ok f

lemma partsRaise_of_check {e : Expression} (h : l.checkExpression owner defined e = .ok ()) :
    e.PartsRaise env Fault.IsEvaluation := by
  induction e using Expression.induction with
  | literal literal =>
    rw [Libraries.checkExpression] at h
    exact .literal (errors_resolve h)
  | designator d =>
    rw [Libraries.checkExpression] at h
    exact .designator (errors_attributes (a := .designator d) h)
  | selector s =>
    rw [Libraries.checkExpression] at h
    exact .selector (errors_attributes (a := .selector s) h)
  | variableRef id => exact .variableRef
  | function uri =>
    rw [Libraries.checkExpression] at h
    exact .function (errors_require henv h)
  | apply uri args ih =>
    rw [Libraries.checkExpression, check_bind_eq_ok, Libraries.checkExpressions_eq_ok] at h
    exact .apply (errors_require henv h.1) (fun _ _ => errors_mapError _)
      fun e he => ih e he (h.2 e he)

variable {definitions : List VariableDefinition}
  (hdefinitions : ∀ d ∈ definitions, l.checkExpression owner defined d.expression = .ok ())
include hdefinitions

/-- Nothing is asked of the variables that are known, for only outcomes of definitions are kept, and
these are never errors of the configuration. -/
lemma expressionSafe_of_check {e : Expression} (h : l.checkExpression owner defined e = .ok ()) :
    env.ExpressionSafe definitions e := by
  have hensures := ensures_evaluate (fun e _ => ⟨e, rfl⟩)
    (fun d hd => partsRaise_of_check henv (hdefinitions d hd)) (partsRaise_of_check henv h)
  exact fun known => (hensures known fun id e _ => ⟨e, rfl⟩).2

lemma dutiesSafe_of_check {duties : List ObligationExpression}
    (h : l.checkObligations owner defined duties = .ok ()) : env.DutiesSafe definitions duties := by
  intro o ho a ha
  refine expressionSafe_of_check henv hdefinitions (check_forM_eq_ok.mp h a ?_)
  exact List.mem_flatMap.mpr ⟨o, ho, ha⟩

lemma ruleSafe_of_check {r : Rule} (h : l.checkRule owner defined r = .ok ()) :
    env.RuleSafe definitions r := by
  simp only [Libraries.checkRule, check_bind_eq_ok] at h
  obtain ⟨htarget, hcondition, hobligations, hadvice⟩ := h
  refine ⟨exists_matchTarget_of_check henv htarget, fun c hc => ?_,
    dutiesSafe_of_check henv hdefinitions hobligations,
    dutiesSafe_of_check henv hdefinitions hadvice⟩
  refine expressionSafe_of_check henv hdefinitions (check_forM_eq_ok.mp hcondition c ?_)
  simp only [hc, Option.toList_some, List.mem_singleton]

end Expressions

section Nodes

variable {l : Libraries} (henv : env.Uses l)
include henv

lemma exists_require {uri : String} (h : l.checkAlgorithm uri = .ok ()) :
    ∃ a, env.algorithms.require uri = .ok a := by
  rw [henv.algorithms]
  exact Libraries.checkAlgorithm_eq_ok.mp h

lemma policySafe_of_check {p : Policy} (h : l.checkPolicy p = .ok ()) : env.PolicySafe p := by
  simp only [Libraries.checkPolicy, check_bind_eq_ok, check_forM_eq_ok] at h
  obtain ⟨-, halgorithm, -, -, hdefinitions, -, htarget, -, -, hrules, hobligations, hadvice⟩ := h
  exact {
    heading := {
      target := exists_matchTarget_of_check henv htarget
      algorithm := exists_require henv halgorithm
      obligations := dutiesSafe_of_check henv hdefinitions hobligations
      advice := dutiesSafe_of_check henv hdefinitions hadvice }
    definitions := fun d hd => expressionSafe_of_check henv hdefinitions (hdefinitions d hd)
    rules := fun r hr => ruleSafe_of_check henv hdefinitions (hrules r hr) }

/-- A policy set has no variables, so that its own duties are checked without any. -/
lemma nodeSafe_of_check {owner : String} {node : PolicyNode}
    (h : l.checkNode owner node = .ok ()) : env.NodeSafe node := by
  cases node with
  | policy p =>
    rw [Libraries.checkNode] at h
    exact policySafe_of_check henv h
  | policySet heading children =>
    have hnone : ∀ d ∈ ([] : List VariableDefinition),
        l.checkExpression heading.id [] d.expression = .ok () := by simp
    simp only [Libraries.checkNode, Libraries.checkHeading, check_bind_eq_ok] at h
    obtain ⟨⟨-, halgorithm, htarget, -⟩, -, hobligations, hadvice⟩ := h
    exact {
      target := exists_matchTarget_of_check henv htarget
      algorithm := exists_require henv halgorithm
      obligations := dutiesSafe_of_check henv hnone hobligations
      advice := dutiesSafe_of_check henv hnone hadvice }
  | policyRef r => exact trivial
  | policySetRef r => exact trivial

end Nodes
end Environment

namespace DecisionPoint

variable {p : DecisionPoint}

/-- What a decision point needs in order to answer: nothing that an evaluation can come to names
what does not exist. -/
def Safe (p : DecisionPoint) : Prop :=
  ∀ now r node, Reaches p.repository p.root.toNode node → (p.environment now r).NodeSafe node

lemma exists_evaluateIndividual (h : p.Safe) (now : Calendar.DateTime) (r : Request) :
    ∃ result, p.evaluateIndividual now r = .ok result := by
  have hsafe : ∀ node, Reaches (p.environment now r).repository p.root.toNode node →
      (p.environment now r).NodeSafe node := h now r
  obtain ⟨d, s, hd⟩ := exists_ok
    (Environment.completes_node hsafe p.configuration.maxReferenceDepth .start) {}
  have hroot : (p.environment now r).evaluateRoot p.root = .ok (Environment.result d s) := by
    rw [Environment.evaluateRoot_eq]
    exact congrArg (fun x => x.1.map fun d => Environment.result d x.2) hd
  exact ⟨_, by rw [evaluateIndividual, hroot]; rfl⟩

lemma exists_evaluate (h : p.Safe) (now : Calendar.DateTime) (r : Request) :
    ∃ results, p.evaluate now r = .ok results := by
  have hparts : ∀ parts : List (Outcome Request),
      ∃ results, parts.mapM (p.evaluatePart now) = .ok results := by
    intro parts
    induction parts with
    | nil => exact ⟨[], rfl⟩
    | cons part parts ih =>
      obtain ⟨results, hresults⟩ := ih
      have hpart : ∃ result, p.evaluatePart now part = .ok result := by
        cases part with
        | error e => exact ⟨_, rfl⟩
        | ok r => exact exists_evaluateIndividual h now r
      obtain ⟨result, hresult⟩ := hpart
      exact ⟨result :: results, by rw [List.mapM_cons, hresult, hresults]; rfl⟩
  obtain ⟨results, hresults⟩ := hparts r.individuals
  exact ⟨_, by rw [evaluate, hresults]; rfl⟩

end DecisionPoint

lemma Deployment.build_eq_ok {d : Deployment} {p : DecisionPoint} :
    d.build = .ok p ↔ ∃ root, d.root = some root ∧ d.libraries.checkAll root d.store = .ok () ∧
      p = ⟨root, d.repository, d.libraries, d.source, d.configuration⟩ := by
  rw [build]
  cases d.root with
  | none => simp
  | some root =>
    simp only [Option.some.injEq, exists_eq_left']
    cases d.libraries.checkAll root d.store with
    | error e => simp
    | ok u =>
      change Except.ok _ = Except.ok p ↔ _
      simp [eq_comm]

/-- What is evaluated with a node that the decision point is made of has been checked. -/
lemma Deployment.nodeSafe_of_build {d : Deployment} {p : DecisionPoint} (hbuild : d.build = .ok p)
    (hexternal : d.external = none) {start : PolicyNode} (hstart : Deployed p.root d.store start)
    (now : Calendar.DateTime) (r : Request) {node : PolicyNode}
    (hnode : Reaches (p.environment now r).repository start node) :
    (p.environment now r).NodeSafe node := by
  obtain ⟨root, -, hcheck, rfl⟩ := build_eq_ok.mp hbuild
  simp only [DecisionPoint.environment, repository, hexternal] at hnode
  obtain ⟨owner, hchecked⟩ := checkNode_of_deployed hcheck (hstart.of_reaches hnode)
  exact Environment.nodeSafe_of_check ⟨rfl, rfl⟩ hchecked

/-- A decision point that has been built without an external repository answers every request. The
checks of what it was built from cover everything that an evaluation can come to, through
references as well. -/
theorem Deployment.evaluate_of_build {d : Deployment} {p : DecisionPoint} (hbuild : d.build = .ok p)
    (hexternal : d.external = none) :
    (∀ now r, ∃ results, p.evaluate now r = .ok results) ∧ p.Safe := by
  have hsafe : p.Safe := fun now r _ hnode => nodeSafe_of_build hbuild hexternal .root now r hnode
  exact ⟨DecisionPoint.exists_evaluate hsafe, hsafe⟩

/-- A policy with a variable in its condition and in its obligation. -/
def Policy.ordering : Policy where
  heading := {
    id := "orders"
    algorithm := StandardAlgorithm.ruleUri "3.0" "permit-overrides"
    obligations := [{
      id := "log"
      effect := .permit
      assignments := [{ attributeId := "kind", expression := .variableRef "kind" }] }] }
  definitions := [⟨"kind", .literal ⟨DataType.string.uri, "order"⟩⟩]
  rules := [{
    id := "allow"
    effect := .permit
    condition := some (.apply (StandardFunction.namespace1 ++ "string-equal")
      [.variableRef "kind", .literal ⟨DataType.string.uri, "order"⟩]) }]

/-- The policy behind a reference. -/
def PolicySet.ordering : PolicySet where
  heading := { id := "root", algorithm := StandardAlgorithm.policyUri "3.0" "deny-overrides" }
  children := [.policyRef { id := "orders" }]

def Deployment.ordering : Deployment where
  root := some (.policySet .ordering)
  store := PolicyStore.addPolicy {} .ordering

section Ordering

variable {l : Libraries} (hfunctions : l.functions = .standard)
  (halgorithms : l.algorithms = .standard)
include hfunctions halgorithms

lemma checkPolicy_ordering : l.checkPolicy .ordering = .ok () := by
  have hfunction : l.checkFunction (StandardFunction.namespace1 ++ "string-equal") = .ok () :=
    Libraries.checkFunction_standard hfunctions (by decide)
  have halgorithm :
      l.checkAlgorithm (StandardAlgorithm.ruleUri "3.0" "permit-overrides") = .ok () :=
    Libraries.checkAlgorithm_standard halgorithms (by decide)
  have htype : checkType DataType.string.uri = .ok () := by decide
  simp only [Libraries.checkPolicy, check_bind_eq_ok]
  refine ⟨checkVersion_default _, halgorithm, by decide, by decide, ?_, by decide, rfl, rfl, rfl,
    ?_, ?_, rfl⟩
  · simpa [Policy.ordering, Libraries.checkExpression] using htype
  · simp [Policy.ordering, Libraries.checkRule, Libraries.checkExpression,
      Libraries.checkExpressions, check_bind_eq_ok, hfunction, htype]
    exact ⟨rfl, rfl⟩
  · rfl

lemma checkAll_ordering : l.checkAll (.policySet .ordering) Deployment.ordering.store = .ok () := by
  have halgorithm :
      l.checkAlgorithm (StandardAlgorithm.policyUri "3.0" "deny-overrides") = .ok () :=
    Libraries.checkAlgorithm_standard halgorithms (by decide)
  simp only [Libraries.checkAll, check_bind_eq_ok, check_forM_eq_ok]
  refine ⟨?_, ?_, ?_⟩
  · refine check_bind_eq_ok.mpr ⟨check_bind_eq_ok.mpr ⟨checkVersion_default _, ?_⟩, rfl⟩
    exact check_bind_eq_ok.mpr ⟨halgorithm, rfl⟩
  · intro p hp
    rw [List.mem_singleton.mp hp]
    exact checkPolicy_ordering hfunctions halgorithms
  · intro s hs
    cases hs

end Ordering

theorem Deployment.evaluate_ordering :
    ∃ p, Deployment.ordering.build = .ok p ∧ Deployment.ordering.external = none ∧
      (∀ now r, ∃ results, p.evaluate now r = .ok results) ∧ p.Safe := by
  have hfunctions : Deployment.ordering.libraries.functions = .standard := by
    simp only [Deployment.libraries, Deployment.ordering, List.foldl_nil]
  have halgorithms : Deployment.ordering.libraries.algorithms = .standard := by
    simp only [Deployment.libraries, Deployment.ordering, List.foldl_nil]
  have hcheck := checkAll_ordering hfunctions halgorithms
  have hbuild := Deployment.build_eq_ok.mpr ⟨.policySet .ordering, rfl, hcheck, rfl⟩
  exact ⟨_, hbuild, rfl, Deployment.evaluate_of_build hbuild rfl⟩

end PolicyDecision
