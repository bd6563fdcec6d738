import PolicyDecision.DecisionPoint
import PolicyDecision.Proofs.Expression.Basic
import PolicyDecision.Proofs.Reach

/-! What the checks establish, and that they cover all that references lead to. -/

namespace PolicyDecision

open Validation

section Checks

lemma check_bind_eq_ok {x : Check} {y : Unit → Check} :
    (x >>= y) = .ok () ↔ x = .ok () ∧ y () = .ok () := by
  cases x with
  | error e =>
    constructor
    · intro h
      cases h
    · rintro ⟨h, -⟩
      cases h
  | ok u => exact ⟨fun h => ⟨rfl, h⟩, And.right⟩

lemma check_forM_eq_ok {α : Type} {check : α → Check} {l : List α} :
    l.forM check = .ok () ↔ ∀ a ∈ l, check a = .ok () := by
  induction l with
  | nil => simp [List.forM_nil, pure, Except.pure]
  | cons a l ih =>
    rw [List.forall_mem_cons, ← ih]
    exact check_bind_eq_ok

lemma checkType_eq_ok {uri : String} :
    checkType uri = .ok () ↔ ∃ type, DataType.ofUri? uri = some type := by
  rw [checkType, ← Option.isSome_iff_exists]
  split <;> simp_all

lemma checkVersion_default (owner : String) : checkVersion owner "1.0" = .ok () := by
  have h : VersionNumber.read "1.0" = .ok [1, 0] := rfl
  rw [checkVersion, h]

end Checks

namespace Libraries

variable {l : Libraries} {owner : String} {defined : List String}

lemma checkFunction_eq_ok {uri : String} :
    l.checkFunction uri = .ok () ↔ ∃ f, l.functions.require uri = .ok f := by
  rw [checkFunction, FunctionRegistry.contains, Catalogue.contains, FunctionRegistry.require,
    FunctionRegistry.find?]
  cases l.functions.callees.get? uri <;> simp

lemma checkAlgorithm_eq_ok {uri : String} :
    l.checkAlgorithm uri = .ok () ↔ ∃ a, l.algorithms.require uri = .ok a := by
  rw [checkAlgorithm, AlgorithmRegistry.contains, Catalogue.contains, AlgorithmRegistry.require]
  cases l.algorithms.algorithms.get? uri <;> simp

lemma checkAlgorithm_standard (hl : l.algorithms = .standard) {uri : String}
    (h : uri ∈ StandardAlgorithm.library.map Prod.fst) : l.checkAlgorithm uri = .ok () := by
  rw [checkAlgorithm, hl, AlgorithmRegistry.contains, AlgorithmRegistry.standard,
    Catalogue.contains_ofList_map StandardAlgorithm.algorithm h, if_pos rfl]

lemma checkFunction_standard (hl : l.functions = .standard) {uri : String}
    (h : uri ∈ StandardFunction.library.map Prod.fst) : l.checkFunction uri = .ok () := by
  rw [checkFunction, hl, FunctionRegistry.contains, FunctionRegistry.standard]
  dsimp only
  rw [Catalogue.contains_ofList_map Callee.standard h, if_pos rfl]

lemma checkExpressions_eq_ok {es : List Expression} :
    l.checkExpressions owner defined es = .ok () ↔
      ∀ e ∈ es, l.checkExpression owner defined e = .ok () := by
  induction es with
  | nil => simp [checkExpressions]
  | cons e es ih => simp only [checkExpressions, check_bind_eq_ok, ih, List.forall_mem_cons]

lemma checkNodes_eq_ok {nodes : List PolicyNode} :
    l.checkNodes owner nodes = .ok () ↔ ∀ n ∈ nodes, l.checkNode owner n = .ok () := by
  induction nodes with
  | nil => simp [checkNodes]
  | cons n nodes ih => simp only [checkNodes, check_bind_eq_ok, ih, List.forall_mem_cons]

end Libraries

section Store

lemma mem_of_latestBy {α : Type} {key : α → VersionNumber} {entries : List α} {a : α}
    (h : latestBy key entries = some a) : a ∈ entries := by
  induction entries generalizing a with
  | nil => cases h
  | cons b entries ih =>
    rw [latestBy] at h
    split at h
    · cases h
      exact List.mem_cons_self
    · rename_i c hc
      split at h
      · cases h
        exact List.mem_cons_self
      · cases h
        exact List.mem_cons_of_mem b (ih hc)

lemma mem_of_latestAdmitted {α : Type} {version : α → String} {constraints : VersionConstraints}
    {entries : List α} {a : α} (h : latestAdmitted version constraints entries = some a) :
    a ∈ entries := (List.mem_filter.mp (mem_of_latestBy h)).1

lemma Catalogue.mem_flatten_values {α : Type} {c : Catalogue (List α)} {key : String} {a : α}
    (h : a ∈ (c.get? key).getD []) : a ∈ c.values.flatten := by
  rw [Catalogue.get?] at h
  rw [Catalogue.values]
  generalize c.entries = entries at h
  induction entries with
  | nil => cases h
  | cons e entries ih =>
    rw [List.map_cons, List.flatten_cons, List.mem_append]
    rw [List.lookup_cons] at h
    split at h
    · exact Or.inl h
    · exact Or.inr (ih h)

variable {store : PolicyStore} {id : String} {constraints : VersionConstraints}

lemma PolicyStore.mem_allPolicies {p : Policy}
    (h : store.toRepository.policy? id constraints = some p) : p ∈ store.allPolicies :=
  Catalogue.mem_flatten_values (mem_of_latestAdmitted h)

lemma PolicyStore.mem_allPolicySets {s : PolicySet}
    (h : store.toRepository.policySet? id constraints = some s) : s ∈ store.allPolicySets :=
  Catalogue.mem_flatten_values (mem_of_latestAdmitted h)

/-- The nodes that a decision point is made of, at whatever depth: those of the root and those that
are stored. -/
inductive Deployed (root : Root) (store : PolicyStore) : PolicyNode → Prop
  | root : Deployed root store root.toNode
  | policy {p : Policy} (stored : p ∈ store.allPolicies) : Deployed root store (.policy p)
  | policySet {s : PolicySet} (stored : s ∈ store.allPolicySets) : Deployed root store s.toNode
  | child {h : Heading} {children : List PolicyNode} {c : PolicyNode}
      (parent : Deployed root store (.policySet h children)) (mem : c ∈ children) :
      Deployed root store c

/-- References lead to what is stored. -/
lemma Deployed.of_reaches {root : Root} {start node : PolicyNode}
    (hstart : Deployed root store start) (h : Reaches store.toRepository start node) :
    Deployed root store node := by
  induction h with
  | start => exact hstart
  | child _ hmem ih => exact .child ih hmem
  | policyRef _ hfound _ => exact .policy (PolicyStore.mem_allPolicies hfound)
  | policySetRef _ hfound _ => exact .policySet (PolicyStore.mem_allPolicySets hfound)

/-- Everything has been checked, with the root or with the store. -/
lemma checkNode_of_deployed {l : Libraries} {root : Root} (h : l.checkAll root store = .ok ())
    {node : PolicyNode} (hnode : Deployed root store node) :
    ∃ owner, l.checkNode owner node = .ok () := by
  simp only [Libraries.checkAll, check_bind_eq_ok, check_forM_eq_ok] at h
  obtain ⟨hroot, hpolicies, hsets⟩ := h
  induction hnode with
  | root =>
    cases root with
    | policy p => exact ⟨p.id, by rwa [Root.toNode, Libraries.checkNode]⟩
    | policySet s => exact ⟨s.id, hroot⟩
  | @policy p hstored => exact ⟨p.id, by rw [Libraries.checkNode, hpolicies p hstored]⟩
  | @policySet s hstored => exact ⟨s.id, hsets s hstored⟩
  | @child heading children c _ hmem ih =>
    obtain ⟨owner, hparent⟩ := ih
    simp only [Libraries.checkNode, check_bind_eq_ok, Libraries.checkNodes_eq_ok] at hparent
    exact ⟨heading.id, hparent.2.1 c hmem⟩

end Store

end PolicyDecision
