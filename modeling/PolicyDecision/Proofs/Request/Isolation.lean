import PolicyDecision.Proofs.Attributes.Noninterference
import PolicyDecision.Proofs.Request.Splitting
import PolicyDecision.Proofs.Validation.Soundness

/-! The parts of a request for several decisions do not influence each other. -/

namespace PolicyDecision

open Stateful

/-- Results that are computed one by one are singletons put together. -/
lemma flatten_except_mapM {ε α β : Type} {f : α → Except ε β} {g : α → Except ε (List β)}
    {l : List α} (h : ∀ a ∈ l, g a = (fun b => [b]) <$> f a) :
    List.flatten <$> l.mapM g = l.mapM f := by
  induction l with
  | nil => rfl
  | cons a l ih =>
    rw [List.mapM_cons, List.mapM_cons, h a List.mem_cons_self,
      ← ih fun c hc => h c (List.mem_cons_of_mem a hc)]
    cases f a with
    | error e => rfl
    | ok b => cases l.mapM g <;> rfl

namespace DecisionPoint

variable {p : DecisionPoint} {now : Calendar.DateTime} {r : Request}

lemma evaluate_of_not_combined (hcombined : r.combinedDecision = false) :
    p.evaluate now r = r.individuals.mapM (p.evaluatePart now) := by
  rw [evaluate, hcombined]
  cases r.individuals.mapM (p.evaluatePart now) <;> rfl

lemma evaluate_of_single {part : Outcome Request} (hr : r.individuals = [part]) :
    p.evaluate now r = (fun result => [result]) <$> p.evaluatePart now part := by
  rw [evaluate, hr, List.mapM_cons, List.mapM_nil]
  cases p.evaluatePart now part with
  | error c => rfl
  | ok result => cases r.combinedDecision <;> rfl

/-- A request is answered as others are, one after the other, if each of these has one part and they
are the parts of the request. An error of the configuration ends both alike. -/
lemma evaluate_of_parts (hcombined : r.combinedDecision = false) {separate : List Request}
    {part : Request → Outcome Request} (hparts : r.individuals = separate.map part)
    (hsingle : ∀ q ∈ separate, q.individuals = [part q]) :
    p.evaluate now r = List.flatten <$> separate.mapM (p.evaluate now) := by
  rw [flatten_except_mapM fun q hq => evaluate_of_single (hsingle q hq),
    evaluate_of_not_combined hcombined, hparts, List.mapM_map]
  rfl

lemma evaluate_of_repeated (p : DecisionPoint) (now : Calendar.DateTime)
    (hversion : r.version.isExtended = true) (hcombined : r.combinedDecision = false)
    (hreferences : r.references = []) (hrepeated : ¬ (r.blocks.map (·.category)).Nodup) :
    ∃ parts : List Request, r.individuals = parts.map .ok ∧
      p.evaluate now r = List.flatten <$> parts.mapM (p.evaluate now) := by
  obtain ⟨chosen, -, hparts, hsingle⟩ :=
    Request.individuals_of_repeated hversion hreferences hrepeated
  rw [← Function.comp_def, ← List.map_map] at hparts
  refine ⟨chosen.map r.individual, hparts, evaluate_of_parts hcombined hparts fun q hq => ?_⟩
  obtain ⟨blocks, hblocks, rfl⟩ := List.mem_map.mp hq
  exact hsingle blocks hblocks

/-- The part of a request that a reference stands for is the only one of the request that holds this
reference alone. -/
lemma evaluate_of_reference (hversion : r.version.isExtended = true) (ids : List String) :
    p.evaluate now { r with references := [ids] } =
      (fun result => [result]) <$>
        p.evaluatePart now ((ids.mapM r.blockById).map r.individual) :=
  evaluate_of_single
    (Request.individuals_of_references (r := { r with references := [ids] }) hversion
      (List.cons_ne_nil _ _))

/-- The result for a reference is that of the request with this reference alone. If the reference
names a missing block it is an error of syntax. -/
structure Answers (p : DecisionPoint) (now : Calendar.DateTime) (r : Request) (ids : List String)
    (result : EvaluationResult) : Prop where
  alone : p.evaluate now { r with references := [ids] } = .ok [result]
  lacking : (∃ id ∈ ids, r.Lacks id) →
    result.decision = .indeterminate ∧ result.status.code = .syntaxError ∧
      ∃ id ∈ ids, r.Lacks id ∧ result = .indeterminate (.unknownBlock id)

lemma answers_of_evaluatePart (hversion : r.version.isExtended = true) {ids : List String}
    {result : EvaluationResult}
    (h : p.evaluatePart now ((ids.mapM r.blockById).map r.individual) = .ok result) :
    p.Answers now r ids result := by
  refine ⟨by rw [evaluate_of_reference hversion, h]; rfl, fun hlacking => ?_⟩
  obtain ⟨id, hid, hlacks, hunknown⟩ := Request.mapM_blockById_of_lacks hlacking
  rw [hunknown] at h
  cases h
  exact ⟨rfl, rfl, id, hid, hlacks, rfl⟩

/-- There is a result, and only one if a combined decision is asked for. -/
lemma length_of_evaluate {results : List EvaluationResult} (h : p.evaluate now r = .ok results) :
    results ≠ [] ∧ (r.combinedDecision = true → results.length = 1) := by
  obtain ⟨parts, hparts, hresults⟩ := except_bind_eq_ok.mp h
  have hpositive : 0 < parts.length := by
    rw [← (forall₂_of_except_mapM_eq_ok hparts).length_eq]
    exact List.length_pos_iff.mpr r.individuals_ne_nil
  cases hresults
  split
  · exact ⟨List.cons_ne_nil _ _, fun _ => rfl⟩
  · rename_i hseparate
    refine ⟨List.length_pos_iff.mp hpositive, fun hcombined => ?_⟩
    have hfew : ¬ 1 < parts.length := by simpa [hcombined] using hseparate
    omega

/-- The parts of a request are evaluated in isolation. If no error of the configuration arises, a
request of version 3.0 that repeats a category has, in order, the results of its individual requests;
one with references has one result for each, in order, which is that of the request with this
reference alone. No request is without a result, and there is only one if a combined decision is
asked for. -/
theorem evaluate_isolated {p : DecisionPoint} {now : Calendar.DateTime}
    (hp : ∀ r c, p.evaluate now r ≠ .error c) (r : Request) :
    ∃ results, p.evaluate now r = .ok results ∧ results ≠ [] ∧
      (r.combinedDecision = true → results.length = 1) ∧
      (r.version.isExtended = true → r.combinedDecision = false →
        (r.references = [] → ¬ (r.blocks.map (·.category)).Nodup →
          ∃ parts answers, r.individuals = parts.map .ok ∧
            List.Forall₂ (fun part answer => p.evaluate now part = .ok answer) parts answers ∧
            results = answers.flatten) ∧
        (r.references ≠ [] → List.Forall₂ (p.Answers now r) r.references results)) := by
  cases hresults : p.evaluate now r with
  | error c => exact absurd hresults (hp r c)
  | ok results =>
    obtain ⟨hne, hcombine⟩ := length_of_evaluate hresults
    refine ⟨results, rfl, hne, hcombine, fun hversion hcombined => ⟨?_, ?_⟩⟩
    · intro hreferences hrepeated
      obtain ⟨parts, hparts, hevaluate⟩ :=
        evaluate_of_repeated p now hversion hcombined hreferences hrepeated
      rw [hresults] at hevaluate
      cases hanswers : parts.mapM (p.evaluate now) with
      | error c =>
        rw [hanswers] at hevaluate
        cases hevaluate
      | ok answers =>
        rw [hanswers] at hevaluate
        cases hevaluate
        exact ⟨parts, answers, hparts,
          (forall₂_of_except_mapM_eq_ok hanswers).imp fun _ _ h => h.2, rfl⟩
    · intro hreferences
      rw [evaluate_of_not_combined hcombined,
        Request.individuals_of_references hversion hreferences, List.mapM_map] at hresults
      exact (forall₂_of_except_mapM_eq_ok hresults).imp fun _ _ h =>
        answers_of_evaluatePart hversion h.2

/-- An evaluation that begins with a policy comes to nothing else. -/
lemma eq_of_reaches_policy {repository : PolicyRepository} {policy : Policy} {node : PolicyNode}
    (h : Reaches repository (.policy policy) node) : node = .policy policy := by
  induction h with
  | start => rfl
  | child _ _ ih | policyRef _ _ ih | policySetRef _ _ ih => cases ih

lemma checkRoot_clinic {l : Libraries} (hfunctions : l.functions = .standard)
    (halgorithms : l.algorithms = .standard) : l.checkRoot clinic.root = .ok () := by
  have hfunction : l.checkFunction (StandardFunction.namespace1 ++ "string-equal") = .ok () :=
    Libraries.checkFunction_standard hfunctions (by decide)
  have halgorithm :
      l.checkAlgorithm (StandardAlgorithm.ruleUri "3.0" "deny-unless-permit") = .ok () :=
    Libraries.checkAlgorithm_standard halgorithms (by decide)
  have htype : Validation.checkType DataType.string.uri = .ok () := by decide
  have htarget : l.checkMatch { function := StandardFunction.namespace1 ++ "string-equal"
                                literal := ⟨DataType.string.uri, "doctor"⟩
                                attributes := .designator role } = .ok () :=
    check_bind_eq_ok.mpr ⟨hfunction, check_bind_eq_ok.mpr ⟨htype, htype⟩⟩
  simp only [clinic, Libraries.checkRoot, Libraries.checkPolicy, check_bind_eq_ok,
    check_forM_eq_ok (α := Rule)]
  refine ⟨checkVersion_default _, halgorithm, rfl, rfl, rfl, rfl, rfl, rfl, rfl,
    List.forall_mem_singleton.mpr ?_, rfl, rfl⟩
  exact check_bind_eq_ok.mpr
    ⟨check_forM_eq_ok.mpr (List.forall_mem_singleton.mpr htarget), rfl⟩

lemma safe_clinic : clinic.Safe := by
  intro now r node hnode
  have hfunctions : clinic.libraries.functions = .standard := by simp only [clinic]
  have halgorithms : clinic.libraries.algorithms = .standard := by simp only [clinic]
  rw [eq_of_reaches_policy hnode]
  exact Environment.policySafe_of_check ⟨rfl, rfl⟩ (checkRoot_clinic hfunctions halgorithms)

/-- A doctor and a nurse. -/
def ward : Request :=
  { clinic.request with
    blocks := [
      { category := role.category, id := some "a",
        attributes := [.ofLiteral "role" ⟨DataType.string.uri, "doctor"⟩] },
      { category := role.category, id := some "b",
        attributes := [.ofLiteral "role" ⟨DataType.string.uri, "nurse"⟩] }] }

theorem evaluate_ward : (∀ r c, clinic.evaluate noon r ≠ .error c) ∧
    (∃ results answers, clinic.evaluate noon ward = .ok results ∧
      List.Forall₂ (fun part answer => clinic.evaluate noon part = .ok answer)
        [ward.individual [ward.blocks[0]], ward.individual [ward.blocks[1]]] answers ∧
      results = answers.flatten) ∧
    ∃ first second, clinic.evaluate noon { ward with references := [["a"], ["c"]] } =
        .ok [first, second] ∧
      clinic.evaluate noon { ward with references := [["a"]] } = .ok [first] ∧
      second.decision = .indeterminate ∧ second.status.code = .syntaxError := by
  have hp : ∀ r c, clinic.evaluate noon r ≠ .error c := by
    intro r c hr
    obtain ⟨results, hresults⟩ := exists_evaluate safe_clinic noon r
    rw [hresults] at hr
    cases hr
  refine ⟨hp, ?_, ?_⟩
  · obtain ⟨results, hresults, -, -, h⟩ := evaluate_isolated hp ward
    obtain ⟨parts, answers, hparts, hanswers, hflatten⟩ := (h rfl rfl).1 rfl (by decide)
    have hindividuals : ward.individuals =
        [ward.individual [ward.blocks[0]], ward.individual [ward.blocks[1]]].map .ok := rfl
    rw [hindividuals] at hparts
    obtain rfl := List.map_injective_iff.mpr (fun _ _ => Except.ok.inj) hparts
    exact ⟨results, answers, hresults, hanswers, hflatten⟩
  · obtain ⟨results, hresults, -, -, h⟩ :=
      evaluate_isolated hp { ward with references := [["a"], ["c"]] }
    have hanswers := (h rfl rfl).2 (List.cons_ne_nil _ _)
    cases hanswers with
    | cons hfirst hrest =>
      cases hrest with
      | cons hsecond hrest =>
        cases hrest
        have hlacks : ∃ id ∈ ["c"], ward.Lacks id := ⟨"c", List.mem_cons_self, by decide⟩
        obtain ⟨hdecision, hcode, -⟩ := hsecond.lacking hlacks
        exact ⟨_, _, hresults, hfirst.alone, hdecision, hcode⟩

end DecisionPoint

end PolicyDecision
