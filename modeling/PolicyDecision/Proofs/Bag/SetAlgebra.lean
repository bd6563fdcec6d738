import PolicyDecision.Proofs.Bag.Membership
import PolicyDecision.Proofs.Function.Collection

/-! The functions on bags as an algebra of sets. A bag is looked at as the set of the values that it
contains. -/

namespace PolicyDecision

open Stateful

namespace Bag

variable {type : DataType} {a b : Bag} {v : Value}

/-- The distinct values of all the bags. -/
def merged (type : DataType) (bags : List Bag) : Bag :=
  ⟨type, distinct ⟨type, bags.flatMap (·.values)⟩⟩

/-- The distinct values of the first bag that the second one contains. -/
def common (type : DataType) (a b : Bag) : Bag := ⟨type, a.distinct.filter b.contains⟩

lemma isSubset_iff_forall_mem : a.isSubset b = true ↔ ∀ v ∈ a.values, b.contains v = true :=
  List.all_eq_true

lemma pairwise_merged (type : DataType) (bags : List Bag) :
    (merged type bags).values.Pairwise fun v w => v.same w = false :=
  pairwise_distinct _

lemma pairwise_common (type : DataType) (a b : Bag) :
    (common type a b).values.Pairwise fun v w => v.same w = false :=
  (pairwise_distinct a).filter _

lemma isOf_merged {bags : List Bag} (hbags : ∀ b ∈ bags, b.IsOf type) :
    (merged type bags).IsOf type := by
  refine isOf_mk fun v hv => ?_
  obtain ⟨b, hb, hv⟩ := List.mem_flatMap.mp (mem_of_mem_distinct hv)
  exact (hbags b hb).type_of_mem hv

lemma isOf_common (ha : a.IsOf type) : (common type a b).IsOf type :=
  isOf_mk fun _ hv => ha.type_of_mem (mem_of_mem_distinct (List.mem_of_mem_filter hv))

section Equality

variable (hdouble : type ≠ .double)
include hdouble

lemma contains_merged {bags : List Bag} (hbags : ∀ b ∈ bags, b.IsOf type) :
    (merged type bags).contains v = true ↔ ∃ b ∈ bags, b.contains v = true := by
  have hall : IsOf type ⟨type, bags.flatMap (·.values)⟩ := by
    refine isOf_mk fun w hw => ?_
    obtain ⟨b, hb, hw⟩ := List.mem_flatMap.mp hw
    exact (hbags b hb).type_of_mem hw
  rw [contains_iff, merged, exists_same_distinct hdouble hall, contains_iff]
  constructor
  · rintro ⟨w, hw, hwv⟩
    obtain ⟨b, hb, hw⟩ := List.mem_flatMap.mp hw
    exact ⟨b, hb, contains_iff.mpr ⟨w, hw, hwv⟩⟩
  · rintro ⟨b, hb, hv⟩
    obtain ⟨w, hw, hwv⟩ := contains_iff.mp hv
    exact ⟨w, List.mem_flatMap.mpr ⟨b, hb, hw⟩, hwv⟩

lemma contains_common (ha : a.IsOf type) (hb : b.IsOf type) :
    (common type a b).contains v = true ↔ a.contains v = true ∧ b.contains v = true := by
  rw [← exists_same_distinct hdouble ha, contains_iff]
  constructor
  · rintro ⟨w, hw, hwv⟩
    obtain ⟨hw, hbw⟩ := List.mem_filter.mp hw
    exact ⟨⟨w, hw, hwv⟩, contains_of_same hdouble hb hwv hbw⟩
  · rintro ⟨⟨w, hw, hwv⟩, hbv⟩
    have hwtype : w.type ≠ .double := ha.type_of_mem (mem_of_mem_distinct hw) ▸ hdouble
    have hbw := contains_of_same hdouble hb (Value.same_symm hwtype hwv) hbv
    exact ⟨w, List.mem_filter.mpr ⟨hw, hbw⟩, hwv⟩

/-- One bag is a subset of another if whatever it contains the other contains too. -/
lemma isSubset_iff (ha : a.IsOf type) (hb : b.IsOf type) :
    a.isSubset b = true ↔ ∀ v, a.contains v = true → b.contains v = true := by
  rw [isSubset_iff_forall_mem]
  constructor
  · intro h v hv
    obtain ⟨w, hw, hwv⟩ := contains_iff.mp hv
    exact contains_of_same hdouble hb hwv (h w hw)
  · intro h v hv
    exact h v (contains_of_mem hdouble ha hv)

lemma any_contains_iff (ha : a.IsOf type) (hb : b.IsOf type) :
    a.values.any b.contains = true ↔ (common type a b).values ≠ [] := by
  constructor
  · intro h
    obtain ⟨v, hv, hbv⟩ := List.any_eq_true.mp h
    have hcommon := (contains_common hdouble ha hb).mpr ⟨contains_of_mem hdouble ha hv, hbv⟩
    obtain ⟨w, hw, -⟩ := contains_iff.mp hcommon
    exact List.ne_nil_of_mem hw
  · intro h
    obtain ⟨v, hv⟩ := List.exists_mem_of_ne_nil _ h
    obtain ⟨hv, hbv⟩ := List.mem_filter.mp hv
    exact List.any_eq_true.mpr ⟨v, mem_of_mem_distinct hv, hbv⟩

end Equality

end Bag

namespace FunctionRegistry

open StandardFunction Bag

variable (r : FunctionRegistry) (context : FunctionContext) {type : DataType} {a b : Bag}
  {v : Value}

/-- The value is in the bag, as the function of the type of the bag says. -/
def IsIn (v : Value) (b : Bag) : Prop :=
  r.call context ⟨namespace1 ++ b.type.shortName ++ "-is-in", .standard (.bag b.type .isIn)⟩
    [.value v, .bag b] = .ok (.boolean true)

/-- No two members are equal, as the function of the type of the bag says. -/
def Distinct (b : Bag) : Prop :=
  b.values.Pairwise fun v w =>
    r.call context ⟨namespace1 ++ b.type.shortName ++ "-equal", .standard (.equal b.type)⟩
      [.value v, .value w] = .ok (.boolean false)

/-- A value of another type is not in the bag. -/
lemma isIn_iff (hb : b.IsOf type) : r.IsIn context v b ↔ b.contains v = true := by
  rw [IsIn, hb.type_eq]
  by_cases hv : v.type = type
  · rw [call_isIn r context _ hv hb.type_eq]
    simp [Evaluated.boolean]
  · rw [call_isIn_of_ne r context _ hv]
    constructor
    · intro h
      cases h
    · intro h
      obtain ⟨w, hw, hwv⟩ := contains_iff.mp h
      exact absurd (Value.type_eq_of_same hwv ▸ hb.type_of_mem hw) hv

lemma distinct_of_pairwise (hb : b.IsOf type)
    (h : b.values.Pairwise fun v w => v.same w = false) : r.Distinct context b := by
  refine h.imp_of_mem fun hv hw hvw => ?_
  rw [call_equal r context _ (hb.2 _ hv) (hb.2 _ hw), hvw]

variable (uri : String)

lemma tells_subset (ha : a.IsOf type) (hb : b.IsOf type) :
    (r.call context ⟨uri, .standard (.set type .subset)⟩ [.bag a, .bag b]).Tells
      (∀ v ∈ a.values, r.IsIn context v b) := by
  refine ⟨_, r.call_set context uri .subset ha.type_eq hb.type_eq, ?_⟩
  rw [isSubset_iff_forall_mem]
  refine forall₂_congr fun v hv => ?_
  rw [r.isIn_iff context hb]

section Equality

variable (hdouble : type ≠ .double)
include hdouble

lemma tells_setEquals (ha : a.IsOf type) (hb : b.IsOf type) :
    (r.call context ⟨uri, .standard (.set type .setEquals)⟩ [.bag a, .bag b]).Tells
      (∀ v, r.IsIn context v a ↔ r.IsIn context v b) := by
  refine ⟨_, r.call_set context uri .setEquals ha.type_eq hb.type_eq, ?_⟩
  rw [Bool.and_eq_true, isSubset_iff hdouble ha hb, isSubset_iff hdouble hb ha, ← forall_and]
  refine forall_congr' fun v => ?_
  rw [← iff_def, r.isIn_iff context ha, r.isIn_iff context hb]

lemma tells_atLeastOneMemberOf (ha : a.IsOf type) (hb : b.IsOf type) :
    (r.call context ⟨uri, .standard (.set type .atLeastOneMemberOf)⟩ [.bag a, .bag b]).Tells
      ((common type a b).values ≠ []) :=
  ⟨_, r.call_set context uri .atLeastOneMemberOf ha.type_eq hb.type_eq,
    any_contains_iff hdouble ha hb⟩

lemma isIn_merged {bags : List Bag} (hbags : ∀ b ∈ bags, b.IsOf type) :
    r.IsIn context v (merged type bags) ↔ ∃ b ∈ bags, r.IsIn context v b := by
  rw [r.isIn_iff context (isOf_merged hbags), contains_merged hdouble hbags]
  refine exists_congr fun b => and_congr_right fun hb => ?_
  rw [r.isIn_iff context (hbags b hb)]

lemma isIn_common (ha : a.IsOf type) (hb : b.IsOf type) :
    r.IsIn context v (common type a b) ↔ r.IsIn context v a ∧ r.IsIn context v b := by
  rw [r.isIn_iff context (isOf_common ha), contains_common hdouble ha hb, r.isIn_iff context ha,
    r.isIn_iff context hb]

/-- A bag is a subset of another if it has no members but those that the two have in common. -/
lemma subset_iff_setEquals (ha : a.IsOf type) (hb : b.IsOf type) :
    r.call context ⟨uri, .standard (.set type .subset)⟩ [.bag a, .bag b] = .ok (.boolean true) ↔
      r.call context ⟨uri, .standard (.set type .setEquals)⟩ [.bag (common type a b), .bag a] =
        .ok (.boolean true) := by
  have hcommon : (common type a b).IsOf type := isOf_common ha
  rw [(r.tells_subset context uri ha hb).eq_true_iff,
    (r.tells_setEquals context uri hdouble hcommon ha).eq_true_iff]
  simp only [r.isIn_common context hdouble ha hb, r.isIn_iff context ha, r.isIn_iff context hb,
    and_iff_left_iff_imp]
  rw [← isSubset_iff hdouble ha hb, isSubset_iff_forall_mem]

/-- Bags of a type, but for doubles, make an algebra of sets up to the equality of the type: what is
in them is told by `is-in`. A union takes two or more bags. -/
theorem set_algebra :
    (∀ bags : List Bag, (∀ b ∈ bags, b.IsOf type) →
      (bags.length < 2 → r.call context ⟨uri, .standard (.union type)⟩ (bags.map .bag) =
        .error (.tooFewArguments 2 bags.length)) ∧
      (2 ≤ bags.length → ∃ u : Bag, u.IsOf type ∧
        r.call context ⟨uri, .standard (.union type)⟩ (bags.map .bag) = .ok (.bag u) ∧
        r.Distinct context u ∧
        ∀ v, r.IsIn context v u ↔ ∃ b ∈ bags, r.IsIn context v b)) ∧
    ∀ a b : Bag, a.IsOf type → b.IsOf type → ∃ i : Bag, i.IsOf type ∧
      r.call context ⟨uri, .standard (.set type .intersection)⟩ [.bag a, .bag b] =
        .ok (.bag i) ∧
      r.Distinct context i ∧
      (∀ v, r.IsIn context v i ↔ r.IsIn context v a ∧ r.IsIn context v b) ∧
      (r.call context ⟨uri, .standard (.set type .subset)⟩ [.bag a, .bag b]).Tells
        (∀ v ∈ a.values, r.IsIn context v b) ∧
      (r.call context ⟨uri, .standard (.set type .setEquals)⟩ [.bag a, .bag b]).Tells
        (∀ v, r.IsIn context v a ↔ r.IsIn context v b) ∧
      (r.call context ⟨uri, .standard (.set type .atLeastOneMemberOf)⟩ [.bag a, .bag b]).Tells
        (i.values ≠ []) ∧
      (r.call context ⟨uri, .standard (.set type .subset)⟩ [.bag a, .bag b] =
          .ok (.boolean true) ↔
        r.call context ⟨uri, .standard (.set type .setEquals)⟩ [.bag i, .bag a] =
          .ok (.boolean true)) := by
  refine ⟨fun bags hbags => ⟨fun hcount => ?_, fun hcount => ?_⟩, fun a b ha hb => ?_⟩
  · rw [r.call_union_of_lt context uri (by simpa using hcount), List.length_map]
  · exact ⟨merged type bags, isOf_merged hbags,
      r.call_union context uri (fun b hb => (hbags b hb).type_eq) hcount,
      r.distinct_of_pairwise context (isOf_merged hbags) (pairwise_merged type bags),
      fun v => r.isIn_merged context hdouble hbags⟩
  · exact ⟨common type a b, isOf_common ha,
      r.call_set context uri .intersection ha.type_eq hb.type_eq,
      r.distinct_of_pairwise context (isOf_common ha) (pairwise_common type a b),
      fun v => r.isIn_common context hdouble ha hb,
      r.tells_subset context uri ha hb, r.tells_setEquals context uri hdouble ha hb,
      r.tells_atLeastOneMemberOf context uri hdouble ha hb,
      r.subset_iff_setEquals context uri hdouble ha hb⟩

end Equality

/-- Noon of UTC, as it is told in two time zones. -/
def easternNoon : Bag :=
  ⟨.time, [.time ⟨13, 0, 0, 0, some 60⟩, .time ⟨14, 0, 0, 0, some 120⟩]⟩

def westernNoon : Bag := ⟨.time, [.time ⟨11, 0, 0, 0, some (-60)⟩]⟩

/-- Two bags without an identical member have the same members, and one value makes their union. -/
theorem set_algebra_noon :
    DataType.time ≠ .double ∧ easternNoon.IsOf .time ∧ westernNoon.IsOf .time ∧
    (∀ v, standard.IsIn .blank v easternNoon ↔
      standard.IsIn .blank v westernNoon) ∧
    standard.Distinct .blank ⟨.time, [.time ⟨13, 0, 0, 0, some 60⟩]⟩ ∧
    ∀ v, standard.IsIn .blank v ⟨.time, [.time ⟨13, 0, 0, 0, some 60⟩]⟩ ↔
      ∃ b ∈ [easternNoon, westernNoon], standard.IsIn .blank v b := by
  have heastern : easternNoon.IsOf .time := isOf_mk (by simp [Value.type])
  have hwestern : westernNoon.IsOf .time := isOf_mk (by simp [Value.type])
  have hbags : ∀ b ∈ [easternNoon, westernNoon], b.IsOf .time := by simp [heastern, hwestern]
  have hdouble : DataType.time ≠ .double := by decide
  obtain ⟨hunion, hpair⟩ := set_algebra standard .blank "" hdouble
  obtain ⟨u, -, hu, hdistinct, hmem⟩ := (hunion _ hbags).2 (Nat.le_refl 2)
  obtain ⟨-, -, -, -, -, -, ⟨equal, hequal, hsame⟩, -⟩ := hpair _ _ heastern hwestern
  cases hu
  cases hequal
  exact ⟨hdouble, heastern, hwestern, hsame.mp rfl, hdistinct, hmem⟩

end FunctionRegistry

end PolicyDecision
