import PolicyDecision.Proofs.Combining.Deferral
import Mathlib.Data.List.FinRange

/-! Algorithms for which the order of the children does not matter. They ask one child after the
other and stop at the first that decides as they want; but what they decide, and whether a child
that applies has been asked, is a matter of what answers there are. -/

namespace PolicyDecision

/-- What a child is known to answer. -/
structure Reply where
  info : ChildInfo
  decision : Decision
  target : MatchResult

/-- What a plan decides when the answers are known, and whether a child that applies has been asked,
then or before. -/
def Plan.outcome {n : ℕ} (answer : Fin n → Decision) (look : Fin n → MatchResult) :
    Plan n → Bool → Decision × Bool
  | .decide d, applied => (d, applied)
  | .evaluate i next, applied =>
    (next (answer i)).outcome answer look (applied || answer i != .notApplicable)
  | .probe i next, applied =>
    (next (look i)).outcome answer look (applied || look i != .noMatch)

lemma Effect.decision_ne_notApplicable (e : Effect) : e.decision ≠ .notApplicable := by
  cases e <;> simp [decision]

namespace CombiningAlgorithm

/-- What an algorithm decides about children with known answers, and whether it has asked one that
applies. -/
def outcome (a : CombiningAlgorithm) (replies : List Reply) (parameters : List Parameter)
    (version : Version) : Decision × Bool :=
  (a replies.length (fun i => (replies.get i).info) parameters version).outcome
    (fun i => (replies.get i).decision) (fun i => (replies.get i).target) false

/-- The order of the children does not matter. -/
def Unordered (a : CombiningAlgorithm) : Prop :=
  ∀ ⦃replies replies' : List Reply⦄, replies.Perm replies' → ∀ parameters version,
    a.outcome replies parameters version = a.outcome replies' parameters version

end CombiningAlgorithm

namespace Combining

/-- A search for a child with a certain decision. The others are tallied, in whatever order, for the
case that there is none. -/
structure Search where
  sought : Decision
  applies : sought ≠ .notApplicable
  Tally : Type
  add : Tally → ChildInfo → Decision → Tally
  add_right_comm : ∀ t info d info' d',
    add (add t info d) info' d' = add (add t info' d') info d
  otherwise : Tally → Decision

namespace Search

variable (search : Search) {n : ℕ}

/-- Asks the children in order until one has the decision that is sought. -/
def plan (info : Fin n → ChildInfo) (t : search.Tally) : List (Fin n) → Plan n
  | [] => .decide (search.otherwise t)
  | i :: is => .evaluate i fun d =>
    if d = search.sought then .decide search.sought else plan info (search.add t (info i) d) is

/-- What comes of the search in terms of all the answers. -/
def outcome (t : search.Tally) (replies : List Reply) (applied : Bool) : Decision × Bool :=
  if replies.any (·.decision == search.sought) then (search.sought, true)
  else
    (search.otherwise (replies.foldl (fun t r => search.add t r.info r.decision) t),
      applied || replies.any (·.decision != .notApplicable))

/-- The search stops early, but the answers that it does not ask for would not matter. -/
lemma outcome_plan {replies : List Reply} (t : search.Tally) (is : List (Fin replies.length))
    (applied : Bool) :
    (search.plan (fun i => (replies.get i).info) t is).outcome
        (fun i => (replies.get i).decision) (fun i => (replies.get i).target) applied =
      search.outcome t (is.map replies.get) applied := by
  induction is generalizing t applied with
  | nil => simp [plan, Plan.outcome, outcome]
  | cons i is ih =>
    rw [plan, Plan.outcome]
    by_cases hsought : (replies.get i).decision = search.sought
    · have happlies : ((replies.get i).decision != .notApplicable) = true := by
        rw [hsought]
        exact bne_iff_ne.mpr search.applies
      rw [if_pos hsought, Plan.outcome, happlies, Bool.or_true, outcome, List.map_cons,
        List.any_cons, hsought, beq_self_eq_true, Bool.true_or, if_pos rfl]
    · have hne : ((replies.get i).decision == search.sought) = false :=
        beq_eq_false_iff_ne.mpr hsought
      rw [if_neg hsought, ih, outcome, outcome, List.map_cons, List.any_cons, List.any_cons,
        List.foldl_cons, hne, Bool.false_or, Bool.or_assoc]

lemma outcome_perm (t : search.Tally) {replies replies' : List Reply}
    (h : replies.Perm replies') (applied : Bool) :
    search.outcome t replies applied = search.outcome t replies' applied := by
  have hfold : replies.foldl (fun t r => search.add t r.info r.decision) t =
      replies'.foldl (fun t r => search.add t r.info r.decision) t :=
    h.foldl_eq' (fun _ _ _ _ t => search.add_right_comm t _ _ _ _) t
  rw [outcome, outcome, h.any_eq, h.any_eq, hfold]

/-- The order does not matter to an algorithm that searches. -/
theorem unordered {a : CombiningAlgorithm}
    (h : ∀ version, ∃ (search : Search) (t : search.Tally), ∀ n info parameters,
      a n info parameters version = search.plan info t (List.finRange n)) : a.Unordered := by
  intro replies replies' hperm parameters version
  obtain ⟨search, t, hplan⟩ := h version
  rw [CombiningAlgorithm.outcome, CombiningAlgorithm.outcome, hplan, hplan, outcome_plan,
    outcome_plan, ← List.ofFn_eq_map, ← List.ofFn_eq_map, List.ofFn_get, List.ofFn_get]
  exact search.outcome_perm t hperm false

end Search

lemma Tally.add_right_comm (t : Tally) (d d' : Decision) :
    (t.add d).add d' = (t.add d').add d := by
  cases d <;> cases d' <;> rfl

lemma LegacyTally.add_right_comm (t : LegacyTally) (e e' : Option Effect) (d d' : Decision) :
    (t.add e d).add e' d' = (t.add e' d').add e d := by
  cases d <;> cases d' <;> simp [add, Bool.or_right_comm]

section Overrides

variable (dominant : Effect)

lemma oriented_eq_deny {d : Decision} : oriented dominant d = .deny ↔ d = dominant.decision := by
  refine ⟨eq_of_oriented_eq_deny, ?_⟩
  rintro rfl
  cases dominant <;> rfl

def extendedSearch : Search where
  sought := dominant.decision
  applies := dominant.decision_ne_notApplicable
  Tally := Tally
  add t _ d := t.add (oriented dominant d)
  add_right_comm t _ _ _ _ := t.add_right_comm _ _
  otherwise t := oriented dominant t.decision

lemma plan_extendedSearch {n : ℕ} (info : Fin n → ChildInfo) (t : Tally) (is : List (Fin n)) :
    extendedOverridesFrom dominant t is = (extendedSearch dominant).plan info t is := by
  induction is generalizing t with
  | nil => rfl
  | cons i is ih =>
    simp only [extendedOverridesFrom, oriented_eq_deny, ih]
    rfl

def legacySearch : Search where
  sought := dominant.decision
  applies := dominant.decision_ne_notApplicable
  Tally := LegacyTally
  add t info d := t.add (orientedEffect dominant info.hint) (oriented dominant d)
  add_right_comm t _ _ _ _ := t.add_right_comm _ _ _ _
  otherwise t := oriented dominant t.decision

lemma plan_legacySearch {n : ℕ} (info : Fin n → ChildInfo) (t : LegacyTally) (is : List (Fin n)) :
    legacyOverridesFrom dominant (fun i => (info i).hint) t is =
      (legacySearch dominant).plan info t is := by
  induction is generalizing t with
  | nil => rfl
  | cons i is ih =>
    simp only [legacyOverridesFrom, oriented_eq_deny, ih]
    rfl

theorem unordered_overrides : (overrides dominant).Unordered := by
  refine Search.unordered fun version => ?_
  cases hversion : version.isExtended with
  | true =>
    refine ⟨extendedSearch dominant, ({} : Tally), fun n info parameters => ?_⟩
    rw [overrides, hversion, if_pos rfl]
    exact plan_extendedSearch dominant info {} (List.finRange n)
  | false =>
    refine ⟨legacySearch dominant, ({} : LegacyTally), fun n info parameters => ?_⟩
    rw [overrides, hversion, if_neg Bool.false_ne_true]
    exact plan_legacySearch dominant info {} (List.finRange n)

end Overrides

section Default

variable (default : Effect)

def defaultSearch : Search where
  sought := default.opposite.decision
  applies := default.opposite.decision_ne_notApplicable
  Tally := Unit
  add t _ _ := t
  add_right_comm _ _ _ _ _ := rfl
  otherwise _ := default.decision

lemma plan_defaultSearch {n : ℕ} (info : Fin n → ChildInfo) (is : List (Fin n)) :
    defaultOf default is = (defaultSearch default).plan info () is := by
  induction is with
  | nil => rfl
  | cons i is ih =>
    rw [defaultOf, ih]
    refine congrArg (Plan.evaluate i) (funext fun d => ?_)
    by_cases hd : d = default.opposite.decision
    · rw [if_pos hd, hd]
      exact (if_pos rfl).symm
    · rw [if_neg hd]
      exact (if_neg hd).symm

theorem unordered_byDefault : (byDefault default).Unordered :=
  Search.unordered fun _ => ⟨defaultSearch default, (), fun n info _ =>
    plan_defaultSearch default info (List.finRange n)⟩

end Default

end Combining

namespace StandardAlgorithm

/-- The algorithms that ask all the children alike. -/
def unordered : List StandardAlgorithm :=
  [denyOverrides, permitOverrides, denyUnlessPermit, permitUnlessDeny]

theorem unordered_of_mem {a : StandardAlgorithm} (h : a ∈ unordered) : a.algorithm.Unordered := by
  cases a with
  | denyOverrides => exact Combining.unordered_overrides .deny
  | permitOverrides => exact Combining.unordered_overrides .permit
  | denyUnlessPermit => exact Combining.unordered_byDefault .deny
  | permitUnlessDeny => exact Combining.unordered_byDefault .permit
  | firstApplicable => exact absurd h (by decide)
  | onlyOneApplicable => exact absurd h (by decide)

end StandardAlgorithm

end PolicyDecision
