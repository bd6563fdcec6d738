import PolicyDecision.Proofs.HigherOrder.Cursor

/-! A function that is tried on all combinations of one member from each argument. -/

namespace PolicyDecision

open Stateful

/-- The members that an argument offers. A value offers itself. -/
def Evaluated.members : Evaluated → List Value
  | value v => [v]
  | bag b => b.values
  | function _ => []

namespace HigherOrder

open Quantifier

/-- Where a column has no member there is no combination to try. -/
lemma searched_eq_settled (holds : List Value → Outcome Bool) (columns : List (List Value)) :
    (if columns.any (·.isEmpty) then .ok false else (Cursor.first columns).search holds) =
      any.settled ((combinations columns).map holds) := by
  split_ifs with h
  · obtain ⟨column, hcolumn, hempty⟩ := List.any_eq_true.mp h
    obtain rfl := List.isEmpty_iff.mp hempty
    rw [combinations_eq_nil hcolumn]
    rfl
  · refine Cursor.search_first holds fun column hcolumn hempty => h ?_
    exact List.any_eq_true.mpr ⟨column, hcolumn, List.isEmpty_iff.mpr hempty⟩

lemma mapM_column {arguments : List Evaluated} (h : ∀ a ∈ arguments, a.kind ≠ .function) :
    arguments.mapM column = .ok (arguments.map Evaluated.members) := by
  induction arguments with
  | nil => rfl
  | cons a arguments ih =>
    obtain ⟨ha, harguments⟩ := List.forall_mem_cons.mp h
    rw [List.mapM_cons, ih harguments]
    cases a with
    | function f => exact absurd rfl ha
    | _ => rfl

/-- The combinations of arguments, each member with its position. -/
def visits (arguments : List Evaluated) : List (List (Value × ℕ)) :=
  combinations (arguments.map fun a => a.members.zipIdx)

lemma mem_visits {arguments : List Evaluated} {visit : List (Value × ℕ)} :
    visit ∈ visits arguments ↔
      List.Forall₂ (fun place a => a.members[place.2]? = some place.1) visit arguments := by
  rw [visits, mem_combinations, List.forall₂_map_right_iff]
  simp only [List.mem_zipIdx_iff_getElem?]

lemma pairwise_positions (arguments : List Evaluated) :
    ((visits arguments).map (·.map Prod.snd)).Pairwise (· < ·) := by
  rw [visits, ← combinations_map, List.map_map]
  refine pairwise_combinations fun l hl => ?_
  obtain ⟨a, -, rfl⟩ := List.mem_map.mp hl
  simp [List.pairwise_lt_range']

lemma map_members_visits (arguments : List Evaluated) :
    (visits arguments).map (·.map Prod.fst) = combinations (arguments.map Evaluated.members) := by
  rw [visits, ← combinations_map, List.map_map]
  simp [Function.comp_def]

lemma quantifyProduct_eq_settled (invoke : Invoke) (f : FunctionRef) {arguments : List Evaluated}
    (hne : arguments ≠ []) (h : ∀ a ∈ arguments, a.kind ≠ .function) :
    quantifyProduct invoke (.function f :: arguments) =
      any.settled ((visits arguments).map fun visit => test invoke f (visit.map Prod.fst)) := by
  have hcount : Arguments.expectAtLeast (.function f :: arguments) 2 = .ok () := by
    have := List.length_pos_iff.mpr hne
    rw [Arguments.expectAtLeast_eq_ok, List.length_cons]
    omega
  have hsearched := searched_eq_settled (test invoke f) (arguments.map Evaluated.members)
  rw [← map_members_visits, List.map_map] at hsearched
  rw [quantifyProduct, hcount]
  change (arguments.mapM column >>= fun columns =>
    if columns.any (·.isEmpty) then .ok false
    else (Cursor.first columns).search (test invoke f)) = _
  rw [mapM_column h]
  exact hsearched

/-- A quantifier over one bag goes through the same combinations. -/
lemma quantify_eq_quantifyProduct (invoke : Invoke) (f : FunctionRef) (fixed : List Value)
    (b : Bag) :
    quantify invoke .any (.function f :: (fixed.map .value ++ [.bag b])) =
      quantifyProduct invoke (.function f :: (fixed.map .value ++ [.bag b])) := by
  have hplain : ∀ a ∈ fixed.map Evaluated.value ++ [Evaluated.bag b], a.kind ≠ .function := by
    intro a ha
    rcases List.mem_append.mp ha with ha | ha
    · obtain ⟨v, -, rfl⟩ := List.mem_map.mp ha
      exact Kind.noConfusion
    · obtain rfl := List.mem_singleton.mp ha
      exact Kind.noConfusion
  have hmembers : (fixed.map Evaluated.value ++ [Evaluated.bag b]).map Evaluated.members =
      fixed.map ([·]) ++ [b.values] := by
    simp [Evaluated.members, Function.comp_def]
  have hvisits : (visits (fixed.map .value ++ [.bag b])).map (·.map Prod.fst) =
      b.values.map fun v => fixed ++ [v] := by
    rw [map_members_visits, hmembers, combinations_append_singleton]
  have htests := congrArg (List.map (test invoke f)) hvisits
  rw [List.map_map, List.map_map] at htests
  rw [quantify_eq_settled, quantifyProduct_eq_settled invoke f (by simp) hplain]
  exact congrArg any.settled htests.symm

end HigherOrder

namespace FunctionRegistry

open HigherOrder Quantifier

variable (r : FunctionRegistry) (context : FunctionContext) (uri : String)

/-- The function is called on the combinations of one member from each argument, in the
lexicographic order of their positions and each of them once, until a call settles the quantifier or
fails. Over values and one bag the quantifier of one bag comes to the same. -/
theorem anyOfAny_explores (f : FunctionRef) {arguments : List Evaluated} (hne : arguments ≠ [])
    (hplain : ∀ a ∈ arguments, a.kind ≠ .function) :
    ∃ visits : List (List (Value × ℕ)),
      (∀ visit, visit ∈ visits ↔
        List.Forall₂ (fun place a => a.members[place.2]? = some place.1) visit arguments) ∧
      (visits.map (·.map Prod.snd)).Pairwise (· < ·) ∧
      r.call context ⟨uri, .standard (.higherOrder .anyOfAny)⟩ (.function f :: arguments) =
        .boolean <$>
          any.settled (visits.map fun visit => test (r.call context) f (visit.map Prod.fst)) ∧
      ((∃ a ∈ arguments, a.members = []) →
        r.call context ⟨uri, .standard (.higherOrder .anyOfAny)⟩ (.function f :: arguments) =
          .ok (.boolean false)) ∧
      ∀ app, application (.function f :: arguments) = .ok app →
        r.call context ⟨uri, .standard (.higherOrder .anyOf)⟩ (.function f :: arguments) =
          r.call context ⟨uri, .standard (.higherOrder .anyOfAny)⟩ (.function f :: arguments) := by
  have hcall : r.call context ⟨uri, .standard (.higherOrder .anyOfAny)⟩ (.function f :: arguments) =
      .boolean <$> any.settled
        ((visits arguments).map fun visit => test (r.call context) f (visit.map Prod.fst)) := by
    rw [call_higherOrder, ← quantifyProduct_eq_settled (r.call context) f hne hplain]
    rfl
  refine ⟨visits arguments, fun _ => mem_visits, pairwise_positions arguments, hcall, ?_, ?_⟩
  · rintro ⟨a, ha, hempty⟩
    have hnone : visits arguments = [] :=
      combinations_eq_nil (List.mem_map.mpr ⟨a, ha, by rw [hempty, List.zipIdx_nil]⟩)
    rw [hcall, hnone]
    rfl
  · intro app happ
    rw [call_higherOrder, call_higherOrder, application_eq_ok.mp happ]
    exact congrArg (Evaluated.boolean <$> ·) (quantify_eq_quantifyProduct (r.call context) _ _ _)

/-- Whether the second integer divides the first one. -/
def divides : CustomFunction
  | [.value (.integer a), .value (.integer b)], _ =>
    if b = 0 then .error .divisionByZero else .ok (.boolean (a % b == 0))
  | args, _ => .error (.argumentCount 2 args.length)

def dividing : FunctionRegistry := empty.register "divides" divides

def dividends : Bag := ⟨.integer, [.integer 7, .integer 8]⟩

def divisors : Bag := ⟨.integer, [.integer 2, .integer 0]⟩

/-- No call comes between 7 with 2 and 7 with 0, which fails. That 2 divides 8 is not found. -/
theorem anyOfAny_explores_divides :
    [Evaluated.bag dividends, .bag divisors] ≠ [] ∧
    (∀ a ∈ [Evaluated.bag dividends, .bag divisors], a.kind ≠ .function) ∧
    ∃ visits : List (List (Value × ℕ)),
      [(.integer 8, 1), (.integer 2, 0)] ∈ visits ∧
      (visits.map (·.map Prod.snd)).Pairwise (· < ·) ∧
      any.settled (visits.map fun visit =>
        test (dividing.call .blank) ⟨"divides", .registered 0⟩ (visit.map Prod.fst)) =
          .error .divisionByZero := by
  have hne : [Evaluated.bag dividends, .bag divisors] ≠ [] := List.cons_ne_nil _ _
  have hplain : ∀ a ∈ [Evaluated.bag dividends, .bag divisors], a.kind ≠ .function := by
    simp [Evaluated.kind]
  obtain ⟨visits, hmem, hsorted, hcall, -⟩ :=
    anyOfAny_explores dividing .blank "" ⟨"divides", .registered 0⟩ hne hplain
  have hfails : dividing.call .blank ⟨"", .standard (.higherOrder .anyOfAny)⟩
      [.function ⟨"divides", .registered 0⟩, .bag dividends, .bag divisors] =
        .error .divisionByZero := by cbv
  rw [hfails] at hcall
  refine ⟨hne, hplain, visits, (hmem _).mpr (.cons rfl (.cons rfl .nil)), hsorted, ?_⟩
  cases hsettled : any.settled (visits.map fun visit =>
      test (dividing.call .blank) ⟨"divides", .registered 0⟩ (visit.map Prod.fst)) with
  | ok b =>
    rw [hsettled] at hcall
    cases hcall
  | error e =>
    rw [hsettled] at hcall
    cases hcall
    rfl

end FunctionRegistry

end PolicyDecision
