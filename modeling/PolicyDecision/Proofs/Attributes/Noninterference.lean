import PolicyDecision.DecisionPoint
import PolicyDecision.Proofs.Attributes.Paths
import PolicyDecision.Proofs.Correspondence.Same

/-! Attributes that no policy asks for do not matter. Two requests that answer the designators of
the policies alike have the same results. -/

namespace PolicyDecision

open Correspondence

namespace Environment

variable {named : Designator → Prop} {env env' : Environment} (h : env.Alike named env')
  (hrepository : ∀ node, env.repository.Yields node → ∀ d ∈ node.designators, named d)
include h hrepository

/-- Node by node, the evaluations go through the same states. -/
theorem evaluateNode_eq_of_alike (budget : ℕ) {node : PolicyNode}
    (hnode : ∀ d ∈ node.designators, named d) :
    env'.evaluateNode (env'.enterSet budget) node =
      env.evaluateNode (env.enterSet budget) node := by
  funext s
  have halike : RepositoryAlike id Eq env env' := .of_answers h hrepository
  obtain ⟨outcome, added, -, hs, hs'⟩ := (parallels_decision rfl).mp
    (halike.parallels_evaluateNode Function.injective_id
      (halike.parallels_enterSet Function.injective_id budget) node (.of_answers h hnode)) s s rfl
  rw [hs, hs']
  cases outcome <;> simp [between, Except.map]

lemma evaluateRoot_eq_of_alike {root : Root} (hroot : ∀ d ∈ root.toNode.designators, named d) :
    env'.evaluateRoot root = env.evaluateRoot root := by
  rw [evaluateRoot_eq, evaluateRoot_eq, h.maxReferenceDepth,
    evaluateNode_eq_of_alike h hrepository _ hroot]

end Environment

/-- The result without the attributes of the request that it returns. -/
def EvaluationResult.withoutAttributes (r : EvaluationResult) : EvaluationResult :=
  { r with attributes := [] }

namespace DecisionPoint

/-- The designators in the root and in whatever the repository may answer with. -/
def Names (p : DecisionPoint) (d : Designator) : Prop :=
  d ∈ p.root.toNode.designators ∨ ∃ node, p.repository.Yields node ∧ d ∈ node.designators

variable {p : DecisionPoint}

lemma evaluate_of_individuals (now : Calendar.DateTime) {r : Request}
    (hwhole : r.individuals = [.ok r]) :
    p.evaluate now r = (p.evaluateIndividual now r).map fun result => [result] := by
  unfold evaluate
  rw [hwhole, List.mapM_cons, List.mapM_nil, evaluatePart]
  cases p.evaluateIndividual now r with
  | error e => rfl
  | ok result => simp [Except.map, bind, Except.bind, pure, Except.pure]

lemma alike_environment (hfunctions : p.libraries.functions = .standard) (hsource : p.source = none)
    (now : Calendar.DateTime) {r r' : Request} (hversion : r'.version = r.version)
    (hids : r'.returnPolicyIds = r.returnPolicyIds)
    (hvalues : ∀ d, p.Names d →
      (r'.source none).values d.query = (r.source none).values d.query) :
    (p.environment now r).Alike p.Names (p.environment now r') := by
  have hpathless : ∀ r : Request, (p.environment now r).source.Pathless := by
    intro r
    rw [environment, hsource]
    exact r.pathless_source
  refine ⟨Environment.answersAlike_of_pathless hfunctions rfl (hpathless r) (hpathless r') rfl
    fun d hd => ?_, hversion, rfl, rfl, rfl, ?_⟩
  · simpa only [environment, hsource] using hvalues d hd
  · simp only [environment, hids]

/-- Requests of one version and with the same flags that are not split and agree on every attribute
that is asked for by name have the same decision, status, obligations, advice and applicable
policies. Nothing else of a request has any influence. -/
theorem evaluate_eq_of_values (hfunctions : p.libraries.functions = .standard)
    (hsource : p.source = none) (now : Calendar.DateTime) {r r' : Request}
    (hversion : r'.version = r.version) (hids : r'.returnPolicyIds = r.returnPolicyIds)
    (hwhole : r.individuals = [.ok r]) (hwhole' : r'.individuals = [.ok r'])
    (hvalues : ∀ d, p.Names d →
      (r'.source none).values d.query = (r.source none).values d.query) :
    (p.evaluate now r').map (List.map EvaluationResult.withoutAttributes) =
      (p.evaluate now r).map (List.map EvaluationResult.withoutAttributes) := by
  have hroot : (p.environment now r').evaluateRoot p.root =
      (p.environment now r).evaluateRoot p.root :=
    Environment.evaluateRoot_eq_of_alike
      (alike_environment hfunctions hsource now hversion hids hvalues)
      (fun node hnode d hd => Or.inr ⟨node, hnode, hd⟩) fun d hd => Or.inl hd
  rw [evaluate_of_individuals now hwhole, evaluate_of_individuals now hwhole', evaluateIndividual,
    evaluateIndividual, hroot]
  cases (p.environment now r).evaluateRoot p.root <;> rfl

/-- The role of a subject. -/
def role : Designator where
  category := "urn:oasis:names:tc:xacml:1.0:subject-category:access-subject"
  attributeId := "role"
  dataType := DataType.string.uri

/-- Only the role is asked for. -/
def clinic : DecisionPoint where
  root := .policy {
    heading := { id := "clinic", algorithm := StandardAlgorithm.ruleUri "3.0" "deny-unless-permit" }
    rules := [{
      id := "doctors"
      effect := .permit
      target := some (.single {
        function := StandardFunction.namespace1 ++ "string-equal"
        literal := ⟨DataType.string.uri, "doctor"⟩
        attributes := .designator role }) }] }
  repository := ⟨fun _ _ => none, fun _ _ => none⟩
  libraries := ⟨.standard, .standard⟩
  source := none
  configuration := {}

def doctor : Request :=
  clinic.request.addAttribute role.category (.ofLiteral "role" ⟨DataType.string.uri, "doctor"⟩)

/-- A doctor of whom more is known. -/
def chessPlayer : Request :=
  doctor.addAttribute role.category (.ofLiteral "hobby" ⟨DataType.string.uri, "chess"⟩)

def noon : Calendar.DateTime := ⟨⟨2000, 1, 1, none⟩, ⟨12, 0, 0, 0, none⟩⟩

theorem evaluate_chessPlayer : clinic.libraries.functions = .standard ∧ clinic.source = none ∧
    chessPlayer ≠ doctor ∧ (∀ d, clinic.Names d →
      (chessPlayer.source none).values d.query = (doctor.source none).values d.query) ∧
    (clinic.evaluate noon chessPlayer).map (List.map EvaluationResult.withoutAttributes) =
      (clinic.evaluate noon doctor).map (List.map EvaluationResult.withoutAttributes) := by
  have hfunctions : clinic.libraries.functions = .standard := rfl
  have hvalues : ∀ d, clinic.Names d →
      (chessPlayer.source none).values d.query = (doctor.source none).values d.query := by
    rintro d (hd | ⟨node, hnode, -⟩)
    · rw [show d = role from List.mem_singleton.mp hd]
      rfl
    · cases hnode with
      | policy found => cases found
      | policySet found => cases found
  exact ⟨hfunctions, rfl, by decide, hvalues,
    evaluate_eq_of_values hfunctions rfl noon rfl rfl rfl rfl hvalues⟩

end DecisionPoint

end PolicyDecision
