import PolicyDecision.Function.HigherOrder
import PolicyDecision.Proofs.Stateful

/-! Which arguments the checks accept: those at the right place and of the right kind. What a
function with a boolean result tells. -/

namespace PolicyDecision

open Stateful

/-- The outcome is a boolean, and it says whether the proposition holds. -/
def Outcome.Tells (outcome : Outcome Evaluated) (P : Prop) : Prop :=
  ∃ b, outcome = .ok (.boolean b) ∧ (b = true ↔ P)

namespace Outcome

variable {outcome outcome' : Outcome Evaluated} {P Q : Prop}

lemma tells_boolean {outcome : Outcome Bool} (h : ∃ b, outcome = .ok b ∧ (b = true ↔ P)) :
    Tells (.boolean <$> outcome) P := by
  obtain ⟨b, rfl, hP⟩ := h
  exact ⟨b, rfl, hP⟩

lemma Tells.congr (h : outcome.Tells P) (hPQ : P ↔ Q) : outcome.Tells Q := by
  obtain ⟨b, hb, hP⟩ := h
  exact ⟨b, hb, hP.trans hPQ⟩

/-- What is told of the same thing is the same. -/
lemma Tells.eq (h : outcome.Tells P) (h' : outcome'.Tells P) : outcome = outcome' := by
  obtain ⟨b, rfl, hb⟩ := h
  obtain ⟨b', rfl, hb'⟩ := h'
  rw [Bool.eq_iff_iff.mpr (hb.trans hb'.symm)]

lemma Tells.eq_true_iff (h : outcome.Tells P) :
    outcome = .ok (.boolean true) ↔ P := by
  obtain ⟨b, rfl, hP⟩ := h
  rw [← hP]
  simp [Evaluated.boolean]

end Outcome

namespace Arguments

variable {args : Arguments} {type : DataType} {i : ℕ}

lemma expectAtLeast_eq_ok {n : ℕ} : args.expectAtLeast n = .ok () ↔ n ≤ args.length := by
  simp [expectAtLeast]

lemma expectCount_of_length_ne {n : ℕ} (h : args.length ≠ n) :
    args.expectCount n = .error (.argumentCount n args.length) := if_neg h

/-- An argument is picked if it is the only one that is selected so. -/
lemma pick_eq_ok {α : Type} {expected : Expected} {select : Evaluated → Option α} {a : α}
    {arg : Evaluated} {P : Prop} (hselect : ∀ other, select other = some a ↔ other = arg ∧ P) :
    args.pick i expected select = .ok a ↔ args[i]? = some arg ∧ P := by
  unfold pick
  cases hother : args[i]? with
  | none => simp
  | some other =>
    rw [Option.some_inj, ← hselect other]
    cases h : select other <;> simp [h]

@[simp] lemma valueAt_eq_ok {v : Value} : args.valueAt i = .ok v ↔ args[i]? = some (.value v) := by
  rw [valueAt, pick_eq_ok (P := True), and_true]
  intro other
  cases other <;> simp

@[simp] lemma typedAt_eq_ok {v : Value} :
    args.typedAt type i = .ok v ↔ args[i]? = some (.value v) ∧ v.type = type := by
  rw [typedAt, except_bind_eq_ok]
  constructor
  · rintro ⟨w, hw, h⟩
    split at h
    · cases h
      exact ⟨valueAt_eq_ok.mp hw, ‹_›⟩
    · cases h
  · rintro ⟨hv, htype⟩
    exact ⟨v, valueAt_eq_ok.mpr hv, if_pos htype⟩

@[simp] lemma bagAt_eq_ok {b : Bag} :
    args.bagAt type i = .ok b ↔ args[i]? = some (.bag b) ∧ b.type = type := by
  refine pick_eq_ok fun other => ?_
  cases other with
  | bag b' =>
    rw [Option.ite_none_right_eq_some, Option.some_inj, Evaluated.bag.injEq]
    constructor
    · rintro ⟨htype, rfl⟩
      exact ⟨rfl, htype⟩
    · rintro ⟨rfl, htype⟩
      exact ⟨htype, rfl⟩
  | _ => simp

@[simp] lemma anyBagAt_eq_ok {b : Bag} : args.anyBagAt i = .ok b ↔ args[i]? = some (.bag b) := by
  rw [anyBagAt, pick_eq_ok (P := True), and_true]
  intro other
  cases other <;> simp

@[simp] lemma functionAt_eq_ok {f : FunctionRef} :
    args.functionAt i = .ok f ↔ args[i]? = some (.function f) := by
  rw [functionAt, pick_eq_ok (P := True), and_true]
  intro other
  cases other <;> simp

@[simp] lemma integerAt_eq_ok {n : Int} :
    args.integerAt i = .ok n ↔ args[i]? = some (.integer n) := by
  rw [integerAt, pick_eq_ok (P := True), and_true]
  intro other
  rcases other with v | b | f
  · cases v <;> simp [Evaluated.integer]
  · simp [Evaluated.integer]
  · simp [Evaluated.integer]

@[simp] lemma stringAt_eq_ok {s : String} :
    args.stringAt i = .ok s ↔ args[i]? = some (.string s) := by
  rw [stringAt, pick_eq_ok (P := True), and_true]
  intro other
  rcases other with v | b | f
  · cases v <;> simp [Evaluated.string]
  · simp [Evaluated.string]
  · simp [Evaluated.string]

@[simp] lemma booleanAt_eq_ok {b : Bool} :
    args.booleanAt i = .ok b ↔ args[i]? = some (.boolean b) := by
  rw [booleanAt, pick_eq_ok (P := True), and_true]
  intro other
  rcases other with v | b | f
  · cases v <;> simp [Evaluated.boolean]
  · simp [Evaluated.boolean]
  · simp [Evaluated.boolean]

/-- A loop that is at `start` finds `arg` there, and goes on with `rest`. -/
lemma of_drop_eq_cons {start : ℕ} {arg : Evaluated} {rest : Arguments}
    (h : args.drop start = arg :: rest) :
    args[start]? = some arg ∧ args.drop (start + 1) = rest := by
  rw [← List.head?_drop, ← List.tail_drop, h]
  exact ⟨rfl, rfl⟩

/-- Arguments are taken from consecutive places if each of them is what it should be. -/
lemma mapM_range'_eq_ok {α : Type} {look : ℕ → Outcome α} {embed : α → Evaluated} {P : α → Prop}
    (hlook : ∀ i a, look i = .ok a ↔ args[i]? = some (embed a) ∧ P a) {start n : ℕ}
    {found : List α} : (List.range' start n).mapM look = .ok found ↔
      found.length = n ∧ found.map embed <+: args.drop start ∧ ∀ a ∈ found, P a := by
  induction n generalizing start found with
  | zero =>
    constructor
    · intro h
      cases h
      simp
    · rintro ⟨hlength, -, -⟩
      rw [List.length_eq_zero_iff.mp hlength]
      rfl
  | succ n ih =>
    rw [List.range'_succ, List.mapM_cons, except_bind_eq_ok]
    constructor
    · rintro ⟨a, ha, h⟩
      obtain ⟨rest, hrest, h⟩ := except_bind_eq_ok.mp h
      cases h
      obtain ⟨ha, hP⟩ := (hlook start a).mp ha
      obtain ⟨hlength, hpre, hforall⟩ := ih.mp hrest
      refine ⟨by simp [hlength], ?_, List.forall_mem_cons.mpr ⟨hP, hforall⟩⟩
      obtain ⟨hstart, hget⟩ := List.getElem?_eq_some_iff.mp ha
      rw [List.drop_eq_getElem_cons hstart, hget, List.map_cons]
      exact List.cons_prefix_cons.mpr ⟨rfl, hpre⟩
    · rintro ⟨hlength, ⟨after, hafter⟩, hforall⟩
      cases found with
      | nil => simp at hlength
      | cons a rest =>
        obtain ⟨hP, hforall⟩ := List.forall_mem_cons.mp hforall
        obtain ⟨ha, hrest⟩ := of_drop_eq_cons hafter.symm
        refine ⟨a, (hlook start a).mpr ⟨ha, hP⟩, except_bind_eq_ok.mpr ⟨rest, ?_, rfl⟩⟩
        exact ih.mpr ⟨by simpa using hlength, ⟨after, hrest.symm⟩, hforall⟩

/-- All the arguments are of one kind. -/
lemma mapM_indicesFrom_zero {α : Type} {look : ℕ → Outcome α} {embed : α → Evaluated}
    {P : α → Prop} (hlook : ∀ i a, look i = .ok a ↔ args[i]? = some (embed a) ∧ P a)
    {found : List α} : (args.indicesFrom 0).mapM look = .ok found ↔
      args = found.map embed ∧ ∀ a ∈ found, P a := by
  rw [indicesFrom, mapM_range'_eq_ok hlook, List.drop_zero, Nat.sub_zero]
  constructor
  · rintro ⟨hlength, hpre, hforall⟩
    exact ⟨(hpre.eq_of_length (by simpa using hlength)).symm, hforall⟩
  · rintro ⟨rfl, hforall⟩
    exact ⟨by simp, List.prefix_rfl, hforall⟩

/-- A fold over the places from one on is a fold over what the arguments there are. -/
lemma foldlM_range' {α β : Type} {look : ℕ → Outcome α} {embed : α → Evaluated}
    (hlook : ∀ i a, args[i]? = some (embed a) → look i = .ok a) (step : β → α → Outcome β)
    {start : ℕ} {found : List α} (hfound : args.drop start = found.map embed) (b : β) :
    (List.range' start found.length).foldlM (fun b i => do step b (← look i)) b =
      found.foldlM step b := by
  induction found generalizing start b with
  | nil => rfl
  | cons a found ih =>
    obtain ⟨ha, hrest⟩ := of_drop_eq_cons hfound
    have hstep : (do step b (← look start)) = step b a := by
      rw [hlook start a ha]
      rfl
    rw [List.length_cons, List.range'_succ, List.foldlM_cons, List.foldlM_cons, hstep]
    exact congrArg (step b a >>= ·) (funext fun b => ih hrest b)

end Arguments

namespace HigherOrder

open Arguments

lemma exists_first_last {args : Arguments} (h : 2 ≤ args.length) :
    ∃ first middle last, args = first :: (middle ++ [last]) := by
  obtain ⟨first, rest, rfl⟩ := List.exists_cons_of_length_pos (Nat.zero_lt_of_lt h)
  rcases List.eq_nil_or_concat rest with rfl | ⟨middle, last, rfl⟩
  · simp at h
  · exact ⟨first, middle, last, by rw [List.concat_eq_append]⟩

/-- What a function is applied along a bag to: first the function, then values, and the bag last. -/
lemma application_eq_ok {args : Arguments} {app : Application} :
    application args = .ok app ↔
      args = .function app.function :: (app.fixed.map .value ++ [.bag app.bag]) := by
  have hvalues : ∀ i v, args.valueAt i = .ok v ↔ args[i]? = some (.value v) ∧ True := by simp
  rw [application, except_bind_eq_ok]
  constructor
  · rintro ⟨⟨⟩, hcount, h⟩
    obtain ⟨f, hf, h⟩ := except_bind_eq_ok.mp h
    obtain ⟨fixed, hfixed, h⟩ := except_bind_eq_ok.mp h
    obtain ⟨b, hb, h⟩ := except_bind_eq_ok.mp h
    cases h
    obtain ⟨hlength, hpre, -⟩ := (mapM_range'_eq_ok hvalues).mp hfixed
    rw [expectAtLeast_eq_ok] at hcount
    rw [functionAt_eq_ok] at hf
    rw [anyBagAt_eq_ok] at hb
    obtain ⟨first, before, last, rfl⟩ := exists_first_last hcount
    have hfirst : first = .function f := by simpa using hf
    have hlast : last = .bag b := by simpa using hb
    have hfixed : fixed.map .value = before := by
      have hbefore : before <+: before ++ [last] := List.prefix_append _ _
      have hlength : (fixed.map Evaluated.value).length = before.length := by simp [hlength]
      exact (List.prefix_of_prefix_length_le hpre hbefore (Nat.le_of_eq hlength)).eq_of_length hlength
    rw [hfirst, hfixed, hlast]
  · rintro rfl
    obtain ⟨f, fixed, b⟩ := app
    refine ⟨(), expectAtLeast_eq_ok.mpr (by simp), except_bind_eq_ok.mpr ⟨f, by simp, ?_⟩⟩
    refine except_bind_eq_ok.mpr ⟨fixed, (mapM_range'_eq_ok hvalues).mpr ?_, ?_⟩
    · simp
    · exact except_bind_eq_ok.mpr ⟨b, by simp, rfl⟩

end HigherOrder

end PolicyDecision
