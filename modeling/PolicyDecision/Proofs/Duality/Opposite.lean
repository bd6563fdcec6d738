import PolicyDecision.DecisionPoint
import PolicyDecision.Proofs.Attributes.Answers
import PolicyDecision.Proofs.Duality.Algorithm

/-! Policies, decision points and results with the two effects exchanged. Targets and expressions do
not depend on where the policies come from. -/

namespace PolicyDecision.Environment

/-- The environment with other policies to refer to. -/
def withRepository (env : Environment) (repository : PolicyRepository) : Environment :=
  { env with repository }

variable (env : Environment) (repository : PolicyRepository)

lemma answersAlike_withRepository :
    AnswersAlike (fun _ => True) env (env.withRepository repository) :=
  ⟨rfl, rfl, fun _ _ => rfl, rfl⟩

theorem matchTarget_withRepository :
    (env.withRepository repository).matchTarget = env.matchTarget := by
  funext target
  exact (env.answersAlike_withRepository repository).matchTarget_eq fun _ _ => trivial

lemma evaluateCondition_withRepository (definitions : List VariableDefinition) :
    (env.withRepository repository).evaluateCondition definitions =
      env.evaluateCondition definitions := by
  funext e
  exact (env.answersAlike_withRepository repository).evaluateCondition_eq (fun _ _ => trivial)
    fun _ _ => trivial

lemma evaluateAssignment_withRepository (definitions : List VariableDefinition) :
    (env.withRepository repository).evaluateAssignment definitions =
      env.evaluateAssignment definitions := by
  funext a
  exact (env.answersAlike_withRepository repository).evaluateAssignment_eq (fun _ _ => trivial)
    fun _ _ => trivial

end PolicyDecision.Environment

/-! The parts of a policy with the two effects exchanged, and what is made of them. -/

namespace PolicyDecision

def ObligationExpression.opposite (o : ObligationExpression) : ObligationExpression :=
  { o with effect := o.effect.opposite }

def Rule.opposite (r : Rule) : Rule :=
  { r with
    effect := r.effect.opposite
    obligations := r.obligations.map .opposite
    advice := r.advice.map .opposite }

def Heading.opposite (h : Heading) : Heading :=
  { h with
    algorithm := StandardAlgorithm.oppositeUri h.algorithm
    obligations := h.obligations.map .opposite
    advice := h.advice.map .opposite }

def Policy.opposite (p : Policy) : Policy :=
  { p with heading := p.heading.opposite, rules := p.rules.map .opposite }

namespace PolicyNode

mutual

def opposite : PolicyNode → PolicyNode
  | policy p => .policy p.opposite
  | policySet h children => .policySet h.opposite (oppositeAll children)
  | policyRef r => .policyRef r
  | policySetRef r => .policySetRef r

def oppositeAll : List PolicyNode → List PolicyNode
  | [] => []
  | node :: nodes => opposite node :: oppositeAll nodes

end

lemma oppositeAll_eq_map (nodes : List PolicyNode) : oppositeAll nodes = nodes.map opposite := by
  induction nodes with
  | nil => rw [oppositeAll, List.map_nil]
  | cons node nodes ih => rw [oppositeAll, ih, List.map_cons]

end PolicyNode

def PolicySet.opposite (s : PolicySet) : PolicySet :=
  ⟨s.heading.opposite, s.children.map .opposite⟩

lemma PolicySet.toNode_opposite (s : PolicySet) : s.opposite.toNode = s.toNode.opposite := by
  rw [toNode, toNode, PolicyNode.opposite, PolicyNode.oppositeAll_eq_map]
  rfl

def Root.opposite : Root → Root
  | policy p => .policy p.opposite
  | policySet s => .policySet s.opposite

/-- The opposites of what the repository has. -/
def PolicyRepository.opposite (r : PolicyRepository) : PolicyRepository where
  policy? id constraints := (r.policy? id constraints).map .opposite
  policySet? id constraints := (r.policySet? id constraints).map .opposite

def Environment.opposite (env : Environment) : Environment :=
  env.withRepository env.repository.opposite

/-- Only the effects differ; the status, the assignments and the policies are the same. -/
def EvaluationResult.opposite (r : EvaluationResult) : EvaluationResult :=
  { r with
    decision := r.decision.opposite
    obligations := r.obligations.map (·.turned Effect.opposite)
    advice := r.advice.map (·.turned Effect.opposite) }

def DecisionPoint.opposite (p : DecisionPoint) : DecisionPoint :=
  { p with root := p.root.opposite, repository := p.repository.opposite }

end PolicyDecision
