import PolicyDecision.Proofs.Function.Argument
import PolicyDecision.Proofs.Function.Registry
import PolicyDecision.Proofs.Termination.Function
import Mathlib.Data.List.Count

/-! The logical functions count the arguments that are true, and stop where the count is settled.
What stands behind that place is not looked at, whatever it is. -/

namespace PolicyDecision

namespace Evaluated

def isBoolean : Evaluated → Bool
  | value (.boolean _) => true
  | _ => false

def isTrue : Evaluated → Bool
  | value (.boolean true) => true
  | _ => false

@[simp] lemma isTrue_boolean (b : Bool) : (boolean b).isTrue = b := by cases b <;> rfl

lemma eq_boolean_of_isBoolean {arg : Evaluated} (h : arg.isBoolean = true) :
    ∃ b, arg = boolean b := by
  fun_cases isBoolean arg with
  | case1 b => exact ⟨b, rfl⟩
  | case2 => simp [isBoolean] at h

lemma isTrue_eq_false {arg : Evaluated} (h : arg.isBoolean = false) : arg.isTrue = false := by
  fun_cases isTrue arg with
  | case1 => cases h
  | case2 => rfl

end Evaluated

namespace Outcome

variable {outcome : Outcome Evaluated} {E E' P Q : Prop}

/-- The outcome is an error on a condition, and otherwise says whether the proposition holds. -/
def TellsUnless (outcome : Outcome Evaluated) (E P : Prop) : Prop :=
  (E → ∃ e, outcome = .error e) ∧ (¬E → outcome.Tells P)

lemma TellsUnless.congr (h : outcome.TellsUnless E P) (hE : E ↔ E') (hP : P ↔ Q) :
    outcome.TellsUnless E' Q := by
  rw [← propext hE, ← propext hP]
  exact h

end Outcome

namespace Connective

open Evaluated Arguments

variable {args : Arguments} {arg : Evaluated} {n : ℕ}

/-- Some argument that is no boolean has fewer than `n` arguments before it that are true. -/
def Spoiled (n : ℕ) (args : Arguments) : Prop :=
  ∃ before arg after, args = before ++ arg :: after ∧ arg.isBoolean = false ∧
    before.countP isTrue < n

lemma not_spoiled_zero : ¬Spoiled 0 args := by
  rintro ⟨before, arg, after, -, -, h⟩
  exact Nat.not_lt_zero _ h

lemma not_spoiled_nil : ¬Spoiled n [] := by
  rintro ⟨before, arg, after, h, -⟩
  exact List.append_ne_nil_of_right_ne_nil before (List.cons_ne_nil arg after) h.symm

lemma spoiled_cons (h : arg.isBoolean = false) : Spoiled (n + 1) (arg :: args) :=
  ⟨[], arg, args, rfl, h, Nat.zero_lt_succ n⟩

/-- One true argument more is allowed for where one stands in front. -/
lemma spoiled_boolean_cons (b : Bool) :
    Spoiled (n + b.toNat) (.boolean b :: args) ↔ Spoiled n args := by
  have hcount (before : Arguments) : (boolean b :: before).countP isTrue < n + b.toNat ↔
      before.countP isTrue < n := by
    cases b <;> simp
  constructor
  · rintro ⟨before, arg, after, heq, harg, hlt⟩
    cases before with
    | nil =>
      cases heq
      cases harg
    | cons first before =>
      obtain ⟨rfl, rfl⟩ := List.cons_eq_cons.mp heq
      exact ⟨before, arg, after, rfl, harg, (hcount before).mp hlt⟩
  · rintro ⟨before, arg, after, rfl, harg, hlt⟩
    exact ⟨boolean b :: before, arg, after, rfl, harg, (hcount before).mpr hlt⟩

lemma booleanAt_eq_error {i : ℕ} (hi : args[i]? = some arg) (h : arg.isBoolean = false) :
    args.booleanAt i = .error (.argument i (.value .boolean) arg.found) := by
  rw [booleanAt, pick, hi]
  rcases arg with v | b | f
  · cases v <;> first | rfl | cases h
  · rfl
  · rfl

/-- The count goes on with what is missing, and is over when nothing is. -/
lemma seekCount_tellsUnless {rest : Arguments} (k start found : ℕ)
    (hrest : args.drop start = rest) :
    (Evaluated.boolean <$> seekCount args (found + k) found
      (List.range' start rest.length)).TellsUnless (Spoiled k rest) (k ≤ rest.countP isTrue) := by
  induction rest generalizing start found k with
  | nil =>
    refine ⟨fun h => absurd h not_spoiled_nil, fun _ => ⟨found == found + k, rfl, ?_⟩⟩
    simp
  | cons arg rest ih =>
    cases k with
    | zero =>
      refine ⟨fun h => absurd h not_spoiled_zero, fun _ => ⟨true, ?_, by simp⟩⟩
      rw [List.length_cons, List.range'_succ, seekCount, if_pos (Nat.add_zero found).symm]
      rfl
    | succ k =>
      obtain ⟨harg, hrest'⟩ := of_drop_eq_cons hrest
      rw [List.length_cons, List.range'_succ, seekCount, if_neg (by omega)]
      by_cases hboolean : arg.isBoolean = true
      · obtain ⟨b, rfl⟩ := eq_boolean_of_isBoolean hboolean
        rw [booleanAt_eq_ok.mpr harg]
        cases b with
        | true =>
          have h := ih k (start + 1) (found + 1) hrest'
          rw [Nat.add_right_comm, Nat.add_assoc] at h
          exact h.congr (spoiled_boolean_cons true).symm (by simp)
        | false =>
          have h := ih (k + 1) (start + 1) found hrest'
          exact h.congr (spoiled_boolean_cons false).symm (by simp)
      · rw [Bool.not_eq_true] at hboolean
        rw [booleanAt_eq_error harg hboolean]
        exact ⟨fun _ => ⟨_, rfl⟩, fun h => absurd (spoiled_cons hboolean) h⟩

/-- Behind `before` stands the `n`-th argument that is true. -/
def IsNthAfter (n : ℕ) (args before : Arguments) : Prop :=
  ∃ last after, args = before ++ last :: after ∧ last.isTrue = true ∧ before.countP isTrue + 1 = n

lemma exists_isNthAfter (args : Arguments) (n : ℕ) (hn : 1 ≤ n)
    (hcount : n ≤ args.countP isTrue) : ∃ before, IsNthAfter n args before := by
  induction args generalizing n with
  | nil =>
    rw [List.countP_nil] at hcount
    omega
  | cons arg args ih =>
    by_cases harg : arg.isTrue = true
    · obtain rfl | ⟨k, hk, rfl⟩ : n = 1 ∨ ∃ k, 1 ≤ k ∧ n = k + 1 := by
        rcases hn.eq_or_lt with rfl | hlt
        · exact .inl rfl
        · exact .inr ⟨n - 1, by omega, by omega⟩
      · exact ⟨[], arg, args, rfl, harg, rfl⟩
      · rw [List.countP_cons_of_pos harg] at hcount
        obtain ⟨before, last, after, rfl, hlast, hbefore⟩ := ih k hk (by omega)
        refine ⟨arg :: before, last, after, rfl, hlast, ?_⟩
        rw [List.countP_cons_of_pos harg, hbefore]
    · rw [List.countP_cons_of_neg harg] at hcount
      obtain ⟨before, last, after, rfl, hlast, hbefore⟩ := ih n hn hcount
      refine ⟨arg :: before, last, after, rfl, hlast, ?_⟩
      rw [List.countP_cons_of_neg harg, hbefore]

/-- There is an `n`-th true argument, which the other one comes before, or there is none. -/
lemma spoiled_iff : Spoiled n args ↔
    (∃ before, IsNthAfter n args before ∧ ∃ arg ∈ before, arg.isBoolean = false) ∨
      (args.countP isTrue < n ∧ ∃ arg ∈ args, arg.isBoolean = false) := by
  constructor
  · rintro ⟨before, arg, after, rfl, harg, hlt⟩
    have hskip : (arg :: after).countP isTrue = after.countP isTrue :=
      List.countP_cons_of_neg (by simp [isTrue_eq_false harg])
    by_cases hcount : (before ++ arg :: after).countP isTrue < n
    · exact .inr ⟨hcount, arg, by simp, harg⟩
    · rw [List.countP_append, hskip] at hcount
      obtain ⟨middle, last, rest, rfl, hlast, hmiddle⟩ :=
        exists_isNthAfter after (n - before.countP isTrue) (by omega) (by omega)
      refine .inl ⟨before ++ arg :: middle, ⟨last, rest, by simp, hlast, ?_⟩, arg, by simp, harg⟩
      rw [List.countP_append, List.countP_cons_of_neg (by simp [isTrue_eq_false harg])]
      omega
  · rintro (⟨before, ⟨last, after, rfl, hlast, hcount⟩, arg, hmem, harg⟩ |
      ⟨hcount, arg, hmem, harg⟩)
    · obtain ⟨front, middle, rfl⟩ := List.append_of_mem hmem
      refine ⟨front, arg, middle ++ last :: after, by simp, harg, ?_⟩
      rw [List.countP_append] at hcount
      omega
    · obtain ⟨front, after, rfl⟩ := List.append_of_mem hmem
      refine ⟨front, arg, after, rfl, harg, ?_⟩
      rw [List.countP_append] at hcount
      omega

lemma atLeast_integer_cons (n : ℤ) (args : Arguments) :
    atLeast (.integer n :: args) =
      if n < 0 then .error (.negativeCount n)
      else if args.length < n.toNat then .error (.countTooLarge n.toNat args.length)
      else seekCount (.integer n :: args) n.toNat 0 (List.range' 1 args.length) := by
  have hcount : Arguments.expectAtLeast (.integer n :: args) 1 = .ok () :=
    expectAtLeast_eq_ok.mpr (by simp)
  have hn : Arguments.integerAt (.integer n :: args) 0 = .ok n := integerAt_eq_ok.mpr rfl
  rw [atLeast, hcount, hn]
  by_cases hneg : n < 0
  · rw [if_pos hneg]
    exact if_pos hneg
  · rw [if_neg hneg]
    refine (if_neg hneg).trans ?_
    by_cases hfew : args.length < n.toNat
    · rw [if_pos hfew]
      exact if_pos hfew
    · rw [if_neg hfew]
      exact if_neg hfew

/-- The booleans go through the loop up to the first that is decisive. -/
lemma seek_booleans {decisive : Bool} {start : ℕ} {bs : List Bool}
    (hbs : args.drop start = bs.map .boolean) :
    seek args decisive (List.range' start bs.length) =
      .ok (if decisive ∈ bs then decisive else !decisive) := by
  induction bs generalizing start with
  | nil => rfl
  | cons b bs ih =>
    obtain ⟨hb, hrest⟩ := of_drop_eq_cons hbs
    rw [List.length_cons, List.range'_succ, seek, booleanAt_eq_ok.mpr hb]
    by_cases hdecisive : b = decisive
    · rw [if_pos (List.mem_cons.mpr (.inl hdecisive.symm))]
      exact if_pos hdecisive
    · refine (if_neg hdecisive).trans ((ih hrest).trans ?_)
      simp [Ne.symm hdecisive]

end Connective

namespace FunctionRegistry

open Arguments Connective Evaluated

variable (r : FunctionRegistry) (context : FunctionContext) (uri : String)

/-- The outcome of a logical function. -/
def logical (op : Connective) (args : Arguments) : Outcome Evaluated :=
  r.call context ⟨uri, .standard (.logical op)⟩ args

/-- The outcome of the function that wants `n` of the arguments behind `n` to be true. -/
def nOf (n : ℤ) (args : Arguments) : Outcome Evaluated :=
  r.logical context uri .nOf (.integer n :: args)

lemma logical_eq (op : Connective) (args : Arguments) :
    r.logical context uri op args = op.call args := by
  rw [logical, call_standard]
  rfl

lemma nOf_eq (n : ℤ) (args : Arguments) :
    r.nOf context uri n args = Evaluated.boolean <$>
      if n < 0 then .error (.negativeCount n)
      else if args.length < n.toNat then .error (.countTooLarge n.toNat args.length)
      else seekCount (.integer n :: args) n.toNat 0 (List.range' 1 args.length) := by
  rw [nOf, logical_eq, ← atLeast_integer_cons]
  rfl

lemma nOf_out_of_range {n : ℤ} {args : Arguments} (h : n < 0 ∨ args.length < n) :
    r.nOf context uri n args =
      .error (if n < 0 then .negativeCount n else .countTooLarge n.toNat args.length) := by
  rw [nOf_eq]
  split_ifs with hneg hfew
  · rfl
  · rfl
  · omega

lemma nOf_tellsUnless (n : ℤ) (args : Arguments) :
    (r.nOf context uri n args).TellsUnless
      ((n < 0 ∨ args.length < n) ∨ Spoiled n.toNat args) (n ≤ args.countP isTrue) := by
  by_cases hrange : n < 0 ∨ args.length < n
  · rw [nOf_out_of_range r context uri hrange]
    exact ⟨fun _ => ⟨_, rfl⟩, fun h => absurd (.inl hrange) h⟩
  · have hrest : (.integer n :: args : Arguments).drop 1 = args := rfl
    have hcount := seekCount_tellsUnless n.toNat 1 0 hrest
    rw [Nat.zero_add] at hcount
    rw [nOf_eq, if_neg (by omega), if_neg (by omega)]
    exact hcount.congr (or_iff_right hrange).symm (by omega)

lemma logical_booleans (decisive : Bool) (bs : List Bool) :
    (Evaluated.boolean <$> seek (bs.map .boolean) decisive
      (indicesFrom (bs.map .boolean) 0)) =
        .ok (.boolean (if decisive ∈ bs then decisive else !decisive)) := by
  have hindices : indicesFrom (bs.map .boolean) 0 = List.range' 0 bs.length := by
    simp [indicesFrom]
  rw [hindices, seek_booleans rfl]
  rfl

lemma or_tells (bs : List Bool) :
    (r.logical context uri .or (bs.map .boolean)).Tells (true ∈ bs) := by
  rw [logical_eq]
  exact ⟨_, logical_booleans true bs, by simp⟩

lemma and_tells (bs : List Bool) :
    (r.logical context uri .and (bs.map .boolean)).Tells (false ∉ bs) := by
  rw [logical_eq]
  exact ⟨_, logical_booleans false bs, by simp⟩

lemma countP_isTrue (bs : List Bool) :
    (bs.map Evaluated.boolean).countP isTrue = bs.count true := by
  simp [List.countP_map, Function.comp_def, List.count]

lemma not_spoiled_booleans (n : ℕ) (bs : List Bool) : ¬Spoiled n (bs.map .boolean) := by
  rintro ⟨before, arg, after, heq, harg, -⟩
  obtain ⟨b, -, rfl⟩ := List.mem_map.mp (heq ▸ List.mem_append_right before List.mem_cons_self)
  cases harg

lemma nOf_booleans_tellsUnless (n : ℤ) (bs : List Bool) :
    (r.nOf context uri n (bs.map .boolean)).TellsUnless (n < 0 ∨ bs.length < n)
      (n ≤ bs.count true) := by
  have hcount := r.nOf_tellsUnless context uri n (bs.map .boolean)
  rw [or_iff_left (not_spoiled_booleans _ bs), List.length_map, countP_isTrue] at hcount
  exact hcount

lemma nOf_perm (n : ℤ) {bs bs' : List Bool} (h : bs.Perm bs') :
    r.nOf context uri n (bs'.map .boolean) = r.nOf context uri n (bs.map .boolean) := by
  by_cases hrange : n < 0 ∨ bs.length < n
  · have hrange' : n < 0 ∨ bs'.length < n := by rwa [← h.length_eq]
    rw [nOf_out_of_range r context uri (by rwa [List.length_map]),
      nOf_out_of_range r context uri (by rwa [List.length_map]), List.length_map, List.length_map,
      h.length_eq]
  · have hcount := (r.nOf_booleans_tellsUnless context uri n bs).2 hrange
    have hcount' := (r.nOf_booleans_tellsUnless context uri n bs').2 (by rwa [← h.length_eq])
    rw [← h.count_eq true] at hcount'
    exact hcount'.eq hcount

/-- The number that is wanted is to be neither negative nor greater than that of the arguments. Then
it is told whether so many of them are true, in whatever order: for one it is what `or` tells, and
for all of them what `and` tells. Where some arguments are no booleans it is an error if one comes
before the last true argument that is wanted, or if there are not enough that are true. -/
theorem nOf_counts :
    (∀ e ∈ StandardFunction.connectives, standard.require e.1 = .ok ⟨e.1, .standard e.2⟩) ∧
    (∀ (n : ℤ) (bs : List Bool),
      (r.nOf context uri n (bs.map .boolean)).TellsUnless (n < 0 ∨ bs.length < n)
        (n ≤ bs.count true) ∧
      ∀ bs', bs.Perm bs' →
        r.nOf context uri n (bs'.map .boolean) = r.nOf context uri n (bs.map .boolean)) ∧
    (∀ bs : List Bool, bs ≠ [] →
      r.nOf context uri 1 (bs.map .boolean) = r.logical context uri .or (bs.map .boolean)) ∧
    (∀ bs : List Bool,
      r.nOf context uri bs.length (bs.map .boolean) =
        r.logical context uri .and (bs.map .boolean)) ∧
    ∀ (n : ℕ) (args : Arguments), 1 ≤ n → n ≤ args.length →
      (r.nOf context uri n args).TellsUnless
        ((∃ before, IsNthAfter n args before ∧ ∃ arg ∈ before, arg.isBoolean = false) ∨
          (args.countP isTrue < n ∧ ∃ arg ∈ args, arg.isBoolean = false))
        (n ≤ args.countP isTrue) := by
  refine ⟨fun _ h => require_standard (StandardFunction.connective_mem h), fun n bs =>
    ⟨r.nOf_booleans_tellsUnless context uri n bs, fun _ => r.nOf_perm context uri n⟩,
    fun bs hne => ?_, fun bs => ?_, fun n args hn hle => ?_⟩
  · have hlength := List.length_pos_iff.mpr hne
    have hone := (r.nOf_booleans_tellsUnless context uri 1 bs).2 (by omega)
    refine hone.eq ((r.or_tells context uri bs).congr ?_)
    rw [← List.one_le_count_iff]
    exact Nat.one_le_cast.symm
  · have hall := (r.nOf_booleans_tellsUnless context uri bs.length bs).2 (by omega)
    refine hall.eq ((r.and_tells context uri bs).congr ?_)
    have hle : bs.count true ≤ bs.length := List.count_le_length
    have heq : bs.count true = bs.length ↔ false ∉ bs := by
      rw [List.count_eq_length]
      grind
    rw [← heq]
    omega
  · have hcount := r.nOf_tellsUnless context uri n args
    rw [or_iff_right (by omega), Int.toNat_natCast, spoiled_iff, Nat.cast_le] at hcount
    exact hcount

/-- The text is not looked at if it comes last, and is refused if it comes earlier. -/
theorem nOf_counts_mixed :
    standard.nOf .blank "" 1 [.boolean true, .string "?"] = .ok (.boolean true) ∧
    (∃ e, standard.nOf .blank "" 2 [.boolean true, .string "?", .boolean true] = .error e) ∧
    [true, false].Perm [false, true] ∧
    standard.nOf .blank "" 1 [.boolean false, .boolean true] =
      standard.logical .blank "" .or [.boolean true, .boolean false] := by
  obtain ⟨-, hbooleans, hone, -, hmixed⟩ := nOf_counts standard .blank ""
  have hunspoiled : ¬Spoiled 1 [.boolean true, .string "?"] :=
    fun h => not_spoiled_zero ((spoiled_boolean_cons true).mp h)
  rw [spoiled_iff] at hunspoiled
  have htells := (hmixed 1 [.boolean true, .string "?"] le_rfl (by decide)).2 hunspoiled
  have hnth : IsNthAfter 2 [.boolean true, .string "?", .boolean true]
      [.boolean true, .string "?"] :=
    ⟨.boolean true, [], rfl, rfl, rfl⟩
  have hperm : [true, false].Perm [false, true] := List.Perm.swap false true []
  refine ⟨htells.eq_true_iff.mpr (by decide), ?_, hperm, ?_⟩
  · exact (hmixed 2 _ (by decide) (by decide)).1 (.inl ⟨_, hnth, .string "?", by simp, rfl⟩)
  · exact ((hbooleans 1 [true, false]).2 _ hperm).trans (hone [true, false] (by decide))

end FunctionRegistry

end PolicyDecision
