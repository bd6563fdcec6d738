import PolicyDecision.Proofs.Attributes.Noninterference
import PolicyDecision.Proofs.Combining.Registry
import PolicyDecision.Proofs.Validation.Cycles
import PolicyDecision.Proofs.Validation.Soundness
import PolicyDecision.Proofs.Visit.Course

/-! Whenever a variable is evaluated in policies that have passed the checks, it is defined and not
pending. -/

namespace PolicyDecision

open Validation

section Scope

variable {definitions : List VariableDefinition}

/-- The variables of the expression are defined. -/
def Expression.DefinedIn (definitions : List VariableDefinition) (e : Expression) : Prop :=
  ∀ id ∈ e.mentions, ∃ d, definition? definitions id = some d

/-- What the definitions mention is defined, and no variable leads to a cycle. -/
structure WellDefined (definitions : List VariableDefinition) : Prop where
  defined : ∀ d ∈ definitions, d.expression.DefinedIn definitions
  acyclic : ∀ id, ¬ LeadsToCycle definitions id

lemma wellDefined_nil : WellDefined [] := by
  refine ⟨List.forall_mem_nil _, fun id => not_leadsToCycle ?_⟩
  exact List.forall_mem_nil _

lemma Expression.DefinedIn.argument {uri : String} {args : List Expression}
    (h : (apply uri args).DefinedIn definitions) {e : Expression} (he : e ∈ args) :
    e.DefinedIn definitions := by
  intro id hid
  refine h id ?_
  rw [mentions]
  exact mem_mentionsAll.mpr ⟨e, he, hid⟩

/-- The variables that are left when some have been replaced are defined as well. -/
lemma Expression.DefinedIn.expandedWithin (hdefinitions : WellDefined definitions) {e : Expression}
    (h : e.DefinedIn definitions) (n : ℕ) : (e.expandedWithin definitions n).DefinedIn definitions := by
  induction n generalizing e with
  | zero => exact h
  | succ n ih =>
    intro x hx
    rw [Expression.expandedWithin] at hx
    obtain ⟨id, hid, hx⟩ := mem_mentions_substitute hx
    obtain ⟨d, hd⟩ := h id hid
    simp only [hd] at hx
    exact ih (hdefinitions.defined d (mem_of_definition? hd)) x hx

/-- No variable is left when all have been replaced. -/
lemma Expression.DefinedIn.mentions_expanded (hdefinitions : WellDefined definitions) {e : Expression}
    (h : e.DefinedIn definitions) : (e.expanded definitions).mentions = [] := by
  refine List.eq_nil_iff_forall_not_mem.mpr fun id hid => ?_
  have hcycle : ¬ e.LeadsToCycle definitions := by
    rintro ⟨x, -, hx⟩
    exact hdefinitions.acyclic x hx
  obtain ⟨d, hd⟩ := h.expandedWithin hdefinitions definitions.length id hid
  rw [Expression.mentions_expanded hcycle hid] at hd
  cases hd

/-- The expressions of the node itself use only variables of its own scope, and these are well
defined. Policy sets have none. -/
def PolicyNode.WellScoped : PolicyNode → Prop
  | policy p => WellDefined p.definitions ∧ ∀ e ∈ p.expressions, e.DefinedIn p.definitions
  | policySet h _ => ∀ e ∈ h.expressions, e.DefinedIn []
  | policyRef _ | policySetRef _ => True

end Scope

lemma mem_of_dutyExpressions_eq {effect : Effect} {obligations advice : List ObligationExpression}
    {before after : List Expression} {e : Expression}
    (h : dutyExpressions effect obligations advice = before ++ e :: after) :
    e ∈ (obligations ++ advice).flatMap ObligationExpression.expressions := by
  have hmem : e ∈ dutyExpressions effect obligations advice := by
    rw [h]
    exact List.mem_append_right _ List.mem_cons_self
  obtain ⟨o, ho, he⟩ := List.mem_flatMap.mp hmem
  exact List.mem_flatMap.mpr ⟨o, (List.mem_filter.mp ho).1, he⟩

namespace Policy

variable {p : Policy} {r : Rule} {e : Expression}

lemma mem_expressions_of_rule (hr : r ∈ p.rules) (he : e ∈ r.expressions) : e ∈ p.expressions :=
  List.mem_append_right _ (List.mem_flatMap.mpr ⟨r, hr, he⟩)

lemma mem_expressions_of_heading (he : e ∈ p.heading.expressions) : e ∈ p.expressions :=
  List.mem_append_left _ he

end Policy

namespace Environment

variable {env : Environment} {root : Root}

/-- Whatever is evaluated is evaluated in a well defined scope that has all its variables. -/
lemma Evaluates.wellScoped
    (hscoped : ∀ node, Reaches env.repository root.toNode node → node.WellScoped)
    {definitions : List VariableDefinition} {known : VariableStates} {e : Expression}
    (h : env.Evaluates root definitions known e) :
    env.Moment definitions known e ∧ WellDefined definitions ∧ e.DefinedIn definitions := by
  induction h with
  | condition hrule _ hcondition =>
    obtain ⟨hknown, hreaches, hr⟩ := hrule.settled
    obtain ⟨hdefinitions, hexpressions⟩ := hscoped _ hreaches
    refine ⟨.start hknown _, hdefinitions, hexpressions _ (Policy.mem_expressions_of_rule hr ?_)⟩
    rw [Rule.expressions, hcondition]
    exact List.mem_append_left _ List.mem_cons_self
  | ruleDuty hrule _ hcondition _ hplace hearlier =>
    obtain ⟨hknown, hreaches, hr⟩ := hrule.settled
    obtain ⟨hdefinitions, hexpressions⟩ := hscoped _ hreaches
    have hsettled := (settled_of_conditionHolds hknown hcondition).mapM hearlier
    refine ⟨.start hsettled _, hdefinitions, hexpressions _ (Policy.mem_expressions_of_rule hr ?_)⟩
    exact List.mem_append_right _ (mem_of_dutyExpressions_eq hplace)
  | policyDuty hpolicy hentered hbody _ hplace hearlier =>
    obtain ⟨hdefinitions, hexpressions⟩ := hscoped _ hpolicy.settled.2
    have hsettled := (settled_of_policyBody hentered hbody).mapM hearlier
    refine ⟨.start hsettled _, hdefinitions, hexpressions _ (Policy.mem_expressions_of_heading ?_)⟩
    exact mem_of_dutyExpressions_eq hplace
  | setDuty hset hentered hbody _ hplace hearlier =>
    obtain ⟨hknown, hreaches⟩ := hset.settled
    have hsettled := (settled_of_setBody hknown hentered hbody).mapM hearlier
    refine ⟨.start hsettled _, wellDefined_nil, hscoped _ hreaches _ ?_⟩
    exact mem_of_dutyExpressions_eq hplace
  | definition _ hfound hunknown ih =>
    obtain ⟨hmoment, hdefinitions, -⟩ := ih
    exact ⟨.definition hmoment hfound hunknown, hdefinitions,
      hdefinitions.defined _ (mem_of_definition? hfound)⟩
  | argument _ hearlier ih =>
    obtain ⟨hmoment, hdefinitions, hdefined⟩ := ih
    exact ⟨.argument hmoment hearlier, hdefinitions,
      hdefined.argument (List.mem_append_right _ List.mem_cons_self)⟩

end Environment

namespace Libraries

variable {l : Libraries} {owner : String} {definitions : List VariableDefinition}

lemma definedIn_of_check {e : Expression}
    (h : l.checkExpression owner (definitions.map (·.id)) e = .ok ()) : e.DefinedIn definitions := by
  induction e using Expression.induction with
  | variableRef id =>
    intro id' hid'
    obtain rfl : id' = id := by simpa [Expression.mentions] using hid'
    rw [checkExpression] at h
    split at h
    · rename_i hcontains
      refine isDefined_iff.mp ?_
      simpa [isDefined] using hcontains
    · cases h
  | apply uri args ih =>
    rw [checkExpression, check_bind_eq_ok, checkExpressions_eq_ok] at h
    intro id hid
    rw [Expression.mentions] at hid
    obtain ⟨e, he, hid⟩ := Expression.mem_mentionsAll.mp hid
    exact ih e he (h.2 e he) id hid
  | _ => exact List.forall_mem_nil _

lemma definedIn_of_checkObligations {duties : List ObligationExpression}
    (h : l.checkObligations owner (definitions.map (·.id)) duties = .ok ()) :
    ∀ e ∈ duties.flatMap ObligationExpression.expressions, e.DefinedIn definitions := by
  rw [checkObligations, check_forM_eq_ok] at h
  intro e he
  obtain ⟨o, ho, he⟩ := List.mem_flatMap.mp he
  obtain ⟨a, ha, rfl⟩ := List.mem_map.mp he
  exact definedIn_of_check (h a (List.mem_flatMap.mpr ⟨o, ho, ha⟩))

lemma definedIn_of_checkDuties {obligations advice : List ObligationExpression}
    (ho : l.checkObligations owner (definitions.map (·.id)) obligations = .ok ())
    (ha : l.checkObligations owner (definitions.map (·.id)) advice = .ok ()) :
    ∀ e ∈ (obligations ++ advice).flatMap ObligationExpression.expressions,
      e.DefinedIn definitions := by
  rw [List.flatMap_append]
  exact List.forall_mem_append.mpr
    ⟨definedIn_of_checkObligations ho, definedIn_of_checkObligations ha⟩

lemma definedIn_of_checkRule {r : Rule}
    (h : l.checkRule owner (definitions.map (·.id)) r = .ok ()) :
    ∀ e ∈ r.expressions, e.DefinedIn definitions := by
  simp only [checkRule, check_bind_eq_ok, check_forM_eq_ok] at h
  obtain ⟨-, hcondition, hobligations, hadvice⟩ := h
  exact List.forall_mem_append.mpr
    ⟨fun e he => definedIn_of_check (hcondition e he), definedIn_of_checkDuties hobligations hadvice⟩

lemma wellScoped_of_checkPolicy {p : Policy} (h : l.checkPolicy p = .ok ()) :
    (PolicyNode.policy p).WellScoped := by
  simp only [checkPolicy, check_bind_eq_ok, check_forM_eq_ok] at h
  obtain ⟨-, -, -, -, hdefinitions, hcycles, -, -, -, hrules, hobligations, hadvice⟩ := h
  have hnone : findCycle? p.definitions = none := by
    rw [checkCycles] at hcycles
    split at hcycles
    · cases hcycles
    · assumption
  refine ⟨⟨fun d hd => definedIn_of_check (hdefinitions d hd),
    not_leadsToCycle_of_findCycle? hnone⟩, List.forall_mem_append.mpr ⟨?_, ?_⟩⟩
  · exact definedIn_of_checkDuties hobligations hadvice
  · intro e he
    obtain ⟨r, hr, he⟩ := List.mem_flatMap.mp he
    exact definedIn_of_checkRule (hrules r hr) e he

lemma wellScoped_of_check {node : PolicyNode} (h : l.checkNode owner node = .ok ()) :
    node.WellScoped := by
  cases node with
  | policy p =>
    rw [checkNode] at h
    exact wellScoped_of_checkPolicy h
  | policySet heading children =>
    simp only [checkNode, check_bind_eq_ok] at h
    obtain ⟨-, -, hobligations, hadvice⟩ := h
    have hduties : ∀ e ∈ (heading.obligations ++ heading.advice).flatMap
        ObligationExpression.expressions, e.DefinedIn [] :=
      definedIn_of_checkDuties hobligations hadvice
    exact hduties
  | policyRef r => exact trivial
  | policySetRef r => exact trivial

end Libraries

/-- Once a decision point has been built without an external repository, no variable can fail.
Whenever one is evaluated, for whatever request, it is defined in the policy around it and it is not
pending; and every expression yields what it yields with all its variables replaced by their
definitions, so that none is left. -/
theorem Deployment.variables_of_build {d : Deployment} {p : DecisionPoint} (hbuild : d.build = .ok p)
    (hexternal : d.external = none) (now : Calendar.DateTime) (r : Request)
    {definitions : List VariableDefinition} {known : VariableStates} {e : Expression}
    (h : (p.environment now r).Evaluates p.root definitions known e) :
    (∀ id, e = .variableRef id →
      (∃ v, definition? definitions id = some v) ∧ known.get? id ≠ some .pending) ∧
    (e.expanded definitions).mentions = [] ∧
      ((p.environment now r).evaluate definitions e known).1 =
        ((p.environment now r).evaluate [] (e.expanded definitions) ∅).1 := by
  obtain ⟨root, -, hcheck, rfl⟩ := build_eq_ok.mp hbuild
  have hscoped : ∀ node, Reaches d.repository root.toNode node → node.WellScoped := by
    intro node hnode
    simp only [repository, hexternal] at hnode
    obtain ⟨owner, hchecked⟩ := checkNode_of_deployed hcheck (Deployed.root.of_reaches hnode)
    exact Libraries.wellScoped_of_check hchecked
  obtain ⟨hmoment, hdefinitions, hdefined⟩ := h.wellScoped hscoped
  obtain ⟨hfaithful, hpending⟩ := hmoment.faithful
  refine ⟨?_, hdefined.mentions_expanded hdefinitions, ?_⟩
  · rintro id rfl
    refine ⟨hdefined id (by simp [Expression.mentions]), fun hid => ?_⟩
    -- A pending variable leads to every variable that is evaluated, so that it would lead to itself.
    have hloop := hpending id hid id (by simp [Expression.mentions])
    exact hdefinitions.acyclic id ⟨id, .refl, hloop⟩
  · refine (Environment.agrees_evaluate hfaithful hpending).1.of_acyclic ?_
    rintro ⟨id, -, hid⟩
    exact hdefinitions.acyclic id hid

/-- The policy by itself. -/
def Deployment.orders : Deployment where
  root := some (.policy .ordering)

def DecisionPoint.orders : DecisionPoint where
  root := .policy .ordering
  repository := Deployment.orders.repository
  libraries := Deployment.orders.libraries
  source := none
  configuration := {}

lemma Deployment.build_orders : Deployment.orders.build = .ok .orders := by
  have hfunctions : orders.libraries.functions = .standard := by
    simp only [libraries, orders, List.foldl_nil]
  have halgorithms : orders.libraries.algorithms = .standard := by
    simp only [libraries, orders, List.foldl_nil]
  have hcheck : orders.libraries.checkAll (.policy .ordering) orders.store = .ok () :=
    check_bind_eq_ok.mpr ⟨checkPolicy_ordering hfunctions halgorithms, rfl⟩
  exact build_eq_ok.mpr ⟨.policy .ordering, rfl, hcheck, rfl⟩

namespace DecisionPoint

/-- The variable in the condition is evaluated first, when nothing is known. -/
lemma evaluates_orders : (orders.environment noon orders.request).Evaluates orders.root
    Policy.ordering.definitions ∅ (.variableRef "kind") := by
  have hstandard : (orders.environment noon orders.request).algorithms = .standard := by
    simp only [environment, orders, Deployment.libraries, Deployment.orders, List.foldl_nil]
  have halgorithm : (orders.environment noon orders.request).algorithms.require
      Policy.ordering.heading.algorithm = .ok StandardAlgorithm.permitOverrides.algorithm := by
    rw [hstandard]
    exact AlgorithmRegistry.require_ruleUri (by decide)
  have hasked : ∀ env : Environment, env.version = .v3_0 →
      .evaluated (0 : Fin 1) {} (env.evaluateRule .ordering Policy.ordering.rules[0] {}).1 ∈
        env.combineTranscript StandardAlgorithm.permitOverrides.algorithm Policy.ordering.heading
          [env.ruleChild .ordering Policy.ordering.rules[0]] {} := by
    intro env hversion
    rw [Environment.combineTranscript, hversion]
    change _ ∈ (Combining.extendedOverridesFrom .permit {} (List.finRange 1)).transcript _ _ _
    rw [show List.finRange 1 = [0] from rfl, Combining.extendedOverridesFrom, Plan.transcript]
    exact List.mem_cons_self
  have hrule : (orders.environment noon orders.request).ComesToRule orders.root Policy.ordering
      Policy.ordering.rules[0] {} :=
    .rule .root rfl halgorithm (hasked _ rfl) rfl
  have hcall : (orders.environment noon orders.request).Evaluates orders.root
      Policy.ordering.definitions ∅ (.apply (StandardFunction.namespace1 ++ "string-equal")
        ([] ++ .variableRef "kind" :: [.literal ⟨DataType.string.uri, "order"⟩])) :=
    .condition hrule rfl rfl
  exact .argument hcall rfl

end DecisionPoint

theorem Deployment.variables_orders : Deployment.orders.build = .ok .orders ∧
    Deployment.orders.external = none ∧
    (DecisionPoint.orders.environment DecisionPoint.noon DecisionPoint.orders.request).Evaluates
      DecisionPoint.orders.root Policy.ordering.definitions ∅ (.variableRef "kind") ∧
    (∃ v, definition? Policy.ordering.definitions "kind" = some v) ∧
    ((Expression.variableRef "kind").expanded Policy.ordering.definitions).mentions = [] := by
  obtain ⟨hvariable, hexpanded, -⟩ :=
    variables_of_build build_orders rfl DecisionPoint.noon _ DecisionPoint.evaluates_orders
  exact ⟨build_orders, rfl, DecisionPoint.evaluates_orders, (hvariable "kind" rfl).1, hexpanded⟩

end PolicyDecision
