import PolicyDecision.Proofs.Node.Step
import PolicyDecision.Proofs.Reach

/-! The rules, policies and policy sets that an evaluation visits, as a tree. -/

namespace PolicyDecision

/-- A visit to a rule, or to a policy or a policy set together with the visits that it leads to. -/
inductive Visit
  | rule (p : Policy) (r : Rule) (outcome : Except ConfigurationError Decision)
  | node (kind : PolicyKind) (h : Heading) (definitions : List VariableDefinition)
      (outcome : Except ConfigurationError Decision) (inner : List Visit)

namespace Visit

def outcome : Visit → Except ConfigurationError Decision
  | rule _ _ outcome => outcome
  | node _ _ _ outcome _ => outcome

def identifier? : Visit → Option PolicyIdentifier
  | rule .. => none
  | node kind h .. => some ⟨kind, h.id, h.version⟩

/-- Whether the visit ended in a decision for the effect. -/
def decided (e : Effect) (v : Visit) : Bool :=
  match v.outcome with
  | .ok d => d == e.decision
  | .error _ => false

mutual

/-- The visits in the tree that ended in a decision for the effect, as did all those around them.
What a node leads to comes before the node itself. -/
def agreeing (e : Effect) : Visit → List Visit
  | rule p r outcome => if (rule p r outcome).decided e then [rule p r outcome] else []
  | node kind h definitions outcome inner =>
    if (node kind h definitions outcome inner).decided e then
      agreeingAll e inner ++ [node kind h definitions outcome inner]
    else []

def agreeingAll (e : Effect) : List Visit → List Visit
  | [] => []
  | v :: vs => agreeing e v ++ agreeingAll e vs

end

end Visit

/-- A child as its algorithm sees it, and the visit that its evaluation from a state on is. A
reference that does not lead anywhere is no visit. -/
structure Traced where
  child : Child NodeEvaluation
  visit : Progress → Option Visit

/-- What an algorithm sees in a place is a child from there. -/
lemma exists_traced (children : List Traced) (i : Fin (children.map Traced.child).length) :
    ∃ t ∈ children, children[i.val]? = some t ∧ (children.map Traced.child).get i = t.child := by
  have hi : i.val < children.length := by simpa using i.isLt
  refine ⟨children[i.val], List.getElem_mem hi, List.getElem?_eq_getElem hi, ?_⟩
  simp

/-- The visits to children that answered the questions of an algorithm. -/
def Event.visit? {n : ℕ} (children : List Traced) : Event n → Option Visit
  | evaluated i start _ => (children[i.val]?).bind fun c => c.visit start
  | probed .. => none

namespace Root

def kind : Root → PolicyKind
  | policy _ => .policy
  | policySet _ => .policySet

def heading : Root → Heading
  | policy p => p.heading
  | policySet s => s.heading

def identifier (root : Root) : PolicyIdentifier :=
  ⟨root.kind, root.heading.id, root.heading.version⟩

end Root

namespace Environment

variable (env : Environment)

/-- The state in which the body of a node is evaluated, unless its target prevents that. -/
def entered (h : Heading) (s : Progress) : Option Progress :=
  match env.matchTarget h.target with
  | .ok .isMatch => some s
  | .ok (.indeterminate e) => if env.version.isExtended then some (s.recorded e) else none
  | _ => none

/-- Before version 3.0 a target that cannot be evaluated prevents the evaluation of the body. -/
def TargetFails (h : Heading) : Prop :=
  env.version.isExtended = false ∧ ∃ err, env.matchTarget h.target = .ok (.indeterminate err)

/-- The visits from the body of a node, given what else changes in the state when it begins. -/
def visitsWithin (change : Progress → Progress) (h : Heading) (children : List Traced)
    (s : Progress) : List Visit :=
  match env.entered h s, env.algorithms.require h.algorithm with
  | some s', .ok a =>
    (env.combineTranscript a h (children.map Traced.child)
      { change s' with findings := {} }).filterMap (Event.visit? children)
  | _, _ => []

def tracedRule (p : Policy) (r : Rule) : Traced where
  child := env.ruleChild p r
  visit s := some (.rule p r (env.evaluateRule p r s).1)

lemma child_tracedRules (p : Policy) :
    (p.rules.map (env.tracedRule p)).map Traced.child = p.rules.map (env.ruleChild p) := by
  rw [List.map_map]
  rfl

def policyVisit (p : Policy) (s : Progress) : Visit :=
  .node .policy p.heading p.definitions (env.evaluatePolicy p s).1
    (env.visitsWithin id p.heading (p.rules.map (env.tracedRule p)) { s with known := ∅ })

def setVisit (h : Heading) (children : List Traced) (s : Progress) : Visit :=
  .node .policySet h [] (env.evaluateSet h (children.map Traced.child) s).1
    (env.visitsWithin (fun s => { s with enclosing := h.id :: s.enclosing }) h children s)

/-- The visit behind a reference, if it leads anywhere. -/
def visitBehind {α : Type} (resolved : NodeEvaluation (Outcome α))
    (visit : α → Progress → Option Visit) (s : Progress) : Option Visit :=
  match resolved s with
  | (.ok (.ok a), s') => visit a { s' with followed := s'.followed + 1 }
  | _ => none

section Nodes

variable (enter : PolicySet → NodeEvaluation Decision)
  (enterVisit : PolicySet → Progress → Option Visit)

mutual

/-- The visit to a child of a policy set, given those to policy sets behind references. -/
def nodeVisit : PolicyNode → Progress → Option Visit
  | .policy p => fun s => some (env.policyVisit p s)
  | .policySet h children => fun s => some (env.setVisit h (tracedNodes h children) s)
  | .policyRef r =>
    visitBehind (env.resolvePolicy r) fun p s => some (env.policyVisit p s)
  | .policySetRef r => visitBehind (env.resolvePolicySet r) enterVisit

def tracedNodes (h : Heading) : List PolicyNode → List Traced
  | [] => []
  | c :: cs => ⟨env.nodeChild enter h c, nodeVisit c⟩ :: tracedNodes h cs

end

lemma tracedNodes_eq_map (h : Heading) (children : List PolicyNode) :
    env.tracedNodes enter enterVisit h children =
      children.map fun c => ⟨env.nodeChild enter h c, env.nodeVisit enter enterVisit c⟩ := by
  induction children with
  | nil => rw [tracedNodes, List.map_nil]
  | cons c cs ih => rw [tracedNodes, ih, List.map_cons]

lemma child_tracedNodes (h : Heading) (children : List PolicyNode) :
    (env.tracedNodes enter enterVisit h children).map Traced.child =
      env.nodeChildren enter h children := by
  rw [tracedNodes_eq_map, nodeChildren_eq_map, List.map_map]
  rfl

end Nodes

/-- The visit to a policy set behind a reference, when so many may still be followed. -/
def enterVisit : ℕ → PolicySet → Progress → Option Visit
  | 0, _ => fun _ => none
  | budget + 1, s => env.nodeVisit (env.enterSet budget) (enterVisit budget) s.toNode

/-- The visit to the root for a request. -/
def rootVisit : Root → Visit
  | .policy p => env.policyVisit p {}
  | .policySet s => env.setVisit s.heading (env.tracedNodes (env.enterSet env.maxReferenceDepth)
      (env.enterVisit env.maxReferenceDepth) s.heading s.children) {}

lemma nodeVisit_root (root : Root) :
    env.nodeVisit (env.enterSet env.maxReferenceDepth) (env.enterVisit env.maxReferenceDepth)
      root.toNode {} = some (env.rootVisit root) := by
  cases root with
  | policy p => rw [Root.toNode, nodeVisit, rootVisit]
  | policySet s => rw [Root.toNode, PolicySet.toNode, nodeVisit, rootVisit]

end Environment
end PolicyDecision
