import PolicyDecision.Proofs.Order.Algorithm
import PolicyDecision.Proofs.Stateful

/-! What an algorithm asks its children: in order, each at most once, and none after the answer that
settles the matter. -/

namespace PolicyDecision

/-- A question to the child at a place, and the answer. -/
inductive Call (ε : Type)
  | evaluated (index : ℕ) (answer : Except ε Decision)
  | probed (index : ℕ) (answer : Except ε MatchResult)

namespace Call

variable {ε σ α : Type}

/-- The place of the child, if it was evaluated. -/
def evaluation? : Call ε → Option ℕ
  | evaluated i _ => some i
  | probed _ _ => none

/-- The error that the child raised. -/
def error? : Call ε → Option ε
  | evaluated _ (.error e) | probed _ (.error e) => some e
  | _ => none

/-- Does what the computation does and keeps a record of the call beside its state. -/
def recording (call : Except ε α → Call ε) (x : ExceptT ε (StateM σ) α) :
    ExceptT ε (StateM (σ × List (Call ε))) α :=
  fun (s, calls) => ((x s).1, (x s).2, calls ++ [call (x s).1])

lemma getLast?_bind_error?_cons {call : Call ε} (h : call.error? = none) (calls : List (Call ε)) :
    (call :: calls).getLast?.bind error? = calls.getLast?.bind error? := by
  cases calls with
  | nil => exact h
  | cons call' calls => rw [List.getLast?_cons_cons]

lemma forall_mem_dropLast_cons {call : Call ε} (h : call.error? = none) {calls : List (Call ε)}
    (hcalls : ∀ c ∈ calls.dropLast, c.error? = none) :
    ∀ c ∈ (call :: calls).dropLast, c.error? = none := by
  cases calls with
  | nil => exact List.forall_mem_nil _
  | cons call' calls => exact List.forall_mem_cons.mpr ⟨h, hcalls⟩

end Call

/-- The child with a record of the calls it receives. -/
def Child.recorded {ε σ : Type} (index : ℕ) (c : Child (ExceptT ε (StateM σ))) :
    Child (ExceptT ε (StateM (σ × List (Call ε)))) where
  info := c.info
  evaluate := Call.recording (.evaluated index) c.evaluate
  probe := Call.recording (.probed index) c.probe

/-- The calls that are on record after a run. -/
def CombiningAlgorithm.calls {ε σ : Type} (a : CombiningAlgorithm)
    (children : List (Child (ExceptT ε (StateM σ)))) (parameters : List Parameter)
    (version : Version) (s : σ) : List (Call ε) :=
  (a.run (children.mapIdx Child.recorded) parameters version (s, [])).2.2

/-- Questions that are asked one after the other, as long as the answers leave the matter open. -/
structure AsksWhile {α : Type} (undecided : List α → Prop) (n : ℕ) (answers : List α) : Prop where
  length_le : answers.length ≤ n
  undecided_dropLast : undecided answers.dropLast
  length_eq : undecided answers → answers.length = n

namespace AsksWhile

variable {α : Type} {undecided : List α → Prop} {n : ℕ} {r : α} {answers : List α}

lemma nil (h : undecided []) : AsksWhile undecided 0 [] :=
  ⟨Nat.le_refl 0, h, fun _ => rfl⟩

lemma last (h : undecided []) (hr : ¬ undecided [r]) : AsksWhile undecided (n + 1) [r] :=
  ⟨Nat.succ_le_succ (Nat.zero_le n), h, fun hu => absurd hu hr⟩

lemma cons (h : undecided []) (hanswers : AsksWhile (fun l => undecided (r :: l)) n answers) :
    AsksWhile undecided (n + 1) (r :: answers) where
  length_le := Nat.succ_le_succ hanswers.length_le
  undecided_dropLast := by
    cases answers with
    | nil => exact h
    | cons r' answers => exact hanswers.undecided_dropLast
  length_eq hu := congrArg (· + 1) (hanswers.length_eq hu)

lemma congr {undecided' : List α → Prop} (h : ∀ l, undecided l ↔ undecided' l)
    (hanswers : AsksWhile undecided n answers) : AsksWhile undecided' n answers :=
  ⟨hanswers.length_le, (h _).mp hanswers.undecided_dropLast,
    fun hu => hanswers.length_eq ((h _).mpr hu)⟩

end AsksWhile

namespace Plan

variable {ε σ : Type} {n : ℕ} (evaluate : Fin n → ExceptT ε (StateM σ) Decision)
  (probe : Fin n → ExceptT ε (StateM σ) MatchResult)

/-- The calls of a run, in order. -/
def calls : Plan n → σ → List (Call ε)
  | .decide _, _ => []
  | .evaluate i next, s =>
    match evaluate i s with
    | (.ok d, s') => .evaluated i (.ok d) :: (next d).calls s'
    | (.error e, _) => [.evaluated i (.error e)]
  | .probe i next, s =>
    match probe i s with
    | (.ok m, s') => .probed i (.ok m) :: (next m).calls s'
    | (.error e, _) => [.probed i (.error e)]

/-- The record of the calls changes nothing else. -/
lemma run_recording (plan : Plan n) (s : σ) (before : List (Call ε)) :
    plan.run (fun i => Call.recording (.evaluated i) (evaluate i))
        (fun i => Call.recording (.probed i) (probe i)) (s, before) =
      ((plan.run evaluate probe s).1, (plan.run evaluate probe s).2,
        before ++ plan.calls evaluate probe s) := by
  induction plan generalizing s before with
  | decide d =>
    rw [calls, List.append_nil]
    rfl
  | evaluate i next ih =>
    rw [run, run, Stateful.bind_apply, Stateful.bind_apply, calls, Call.recording]
    rcases evaluate i s with ⟨e | d, s'⟩
    · rfl
    · simp only [ih, List.append_assoc, List.singleton_append]
  | probe i next ih =>
    rw [run, run, Stateful.bind_apply, Stateful.bind_apply, calls, Call.recording]
    rcases probe i s with ⟨e | m, s'⟩
    · rfl
    · simp only [ih, List.append_assoc, List.singleton_append]

variable {evaluate probe}

/-- Only the last call can raise an error. -/
lemma error?_eq_none_of_mem_dropLast (plan : Plan n) (s : σ) :
    ∀ call ∈ (plan.calls evaluate probe s).dropLast, call.error? = none := by
  induction plan generalizing s with
  | decide d => exact List.forall_mem_nil _
  | evaluate i next ih =>
    rw [calls]
    rcases evaluate i s with ⟨e | d, s'⟩
    · exact List.forall_mem_nil _
    · exact Call.forall_mem_dropLast_cons rfl (ih d s')
  | probe i next ih =>
    rw [calls]
    rcases probe i s with ⟨e | m, s'⟩
    · exact List.forall_mem_nil _
    · exact Call.forall_mem_dropLast_cons rfl (ih m s')

/-- The errors of a run are those of its last call. -/
lemma run_eq_error_iff {plan : Plan n} {s : σ} {e : ε} :
    (plan.run evaluate probe s).1 = .error e ↔
      (plan.calls evaluate probe s).getLast?.bind Call.error? = some e := by
  induction plan generalizing s with
  | decide d => exact iff_of_false nofun nofun
  | evaluate i next ih =>
    rw [run, Stateful.bind_apply, calls]
    rcases evaluate i s with ⟨e' | d, s'⟩
    · simp [Call.error?]
    · rw [Call.getLast?_bind_error?_cons rfl]
      exact ih d
  | probe i next ih =>
    rw [run, Stateful.bind_apply, calls]
    rcases probe i s with ⟨e' | m, s'⟩
    · simp [Call.error?]
    · rw [Call.getLast?_bind_error?_cons rfl]
      exact ih m

/-- The plan evaluates the children in the given order until a decision settles the matter. -/
inductive AsksUntil (settles : Decision → Prop) : List (Fin n) → Plan n → Prop
  | decide (d : Decision) : AsksUntil settles [] (.decide d)
  | evaluate {i : Fin n} {is : List (Fin n)} {next : Decision → Plan n}
      (stop : ∀ d, settles d → ∃ d', next d = .decide d')
      (goOn : ∀ d, ¬ settles d → AsksUntil settles is (next d)) :
      AsksUntil settles (i :: is) (.evaluate i next)

end Plan

/-- The children have answered, but no decision settles the matter. -/
def Undecided {ε : Type} (settles : Decision → Prop) (answers : List (Except ε Decision)) : Prop :=
  ∀ r ∈ answers, ∃ d, r = .ok d ∧ ¬ settles d

lemma undecided_cons {ε : Type} {settles : Decision → Prop} {d : Decision} (hd : ¬ settles d)
    (answers : List (Except ε Decision)) :
    Undecided settles answers ↔ Undecided settles (.ok d :: answers) := by
  rw [Undecided, Undecided, List.forall_mem_cons]
  exact (and_iff_right ⟨d, rfl, hd⟩).symm

lemma Plan.AsksUntil.exists_calls {ε σ : Type} {n : ℕ}
    (evaluate : Fin n → ExceptT ε (StateM σ) Decision)
    (probe : Fin n → ExceptT ε (StateM σ) MatchResult) {settles : Decision → Prop}
    {is : List (Fin n)} {plan : Plan n} (h : plan.AsksUntil settles is) (s : σ) :
    ∃ answers, AsksWhile (Undecided settles) is.length answers ∧
      plan.calls evaluate probe s = List.zipWith (fun i r => .evaluated i r) is answers := by
  have hnil : Undecided (ε := ε) settles [] := List.forall_mem_nil _
  induction h generalizing s with
  | decide d => exact ⟨[], .nil hnil, rfl⟩
  | @evaluate i is next stop _ ih =>
    rw [calls]
    rcases evaluate i s with ⟨e | d, s'⟩
    · refine ⟨[.error e], .last hnil ?_, by simp⟩
      intro h
      obtain ⟨d, hd, -⟩ := h _ List.mem_cons_self
      cases hd
    · by_cases hd : settles d
      · obtain ⟨d', hnext⟩ := stop d hd
        refine ⟨[.ok d], .last hnil ?_, by simp [hnext, calls]⟩
        intro h
        obtain ⟨d', hd', hopen⟩ := h _ List.mem_cons_self
        cases hd'
        exact hopen hd
      · obtain ⟨answers, hasks, hcalls⟩ := ih d hd s'
        exact ⟨.ok d :: answers, .cons hnil (hasks.congr (undecided_cons hd)),
          congrArg (Call.evaluated i (.ok d) :: ·) hcalls⟩

namespace Combining

lemma Search.asksUntil (search : Search) {n : ℕ} (info : Fin n → ChildInfo) (t : search.Tally)
    (is : List (Fin n)) : (search.plan info t is).AsksUntil (· = search.sought) is := by
  induction is generalizing t with
  | nil => exact .decide _
  | cons i is ih =>
    refine .evaluate (fun d hd => ⟨search.sought, if_pos hd⟩) ?_
    intro d hd
    rw [if_neg hd]
    exact ih _

lemma asksUntil_firstApplicableOf (version : Version) {n : ℕ} (is : List (Fin n)) :
    (firstApplicableOf version is).AsksUntil (· ≠ .notApplicable) is := by
  induction is with
  | nil => exact .decide _
  | cons i is ih =>
    refine .evaluate (fun d hd => ⟨version.shown d, if_neg hd⟩) ?_
    intro d hd
    rw [if_pos (not_not.mp hd)]
    exact ih

lemma asksUntil_overrides (dominant : Effect) {n : ℕ} (info : Fin n → ChildInfo)
    (parameters : List Parameter) (version : Version) :
    (overrides dominant n info parameters version).AsksUntil (· = dominant.decision)
      (List.finRange n) := by
  rw [overrides]
  split
  · rw [extendedOverrides, plan_extendedSearch dominant info]
    exact (extendedSearch dominant).asksUntil info _ _
  · rw [legacyOverrides, plan_legacySearch dominant info]
    exact (legacySearch dominant).asksUntil info _ _

lemma asksUntil_byDefault (default : Effect) {n : ℕ} (info : Fin n → ChildInfo)
    (parameters : List Parameter) (version : Version) :
    (byDefault default n info parameters version).AsksUntil (· = default.opposite.decision)
      (List.finRange n) := by
  rw [byDefault, plan_defaultSearch default info]
  exact (defaultSearch default).asksUntil info _ _

end Combining

/-- Every target matches or does not, and no two of them match. -/
def Unambiguous {ε : Type} (looks : List (Except ε MatchResult)) : Prop :=
  (∀ r ∈ looks, r = .ok .noMatch ∨ r = .ok .isMatch) ∧
    looks.Pairwise fun r r' => ¬ (r = .ok .isMatch ∧ r' = .ok .isMatch)

namespace Unambiguous

variable {ε : Type} {looks : List (Except ε MatchResult)}

lemma nil : Unambiguous (ε := ε) [] :=
  ⟨List.forall_mem_nil _, .nil⟩

lemma cons_noMatch : Unambiguous (.ok .noMatch :: looks) ↔ Unambiguous looks := by
  simp [Unambiguous]

/-- After a target that matches there is room for no other. -/
lemma cons_isMatch :
    Unambiguous (.ok .isMatch :: looks) ↔ ∀ r ∈ looks, r = .ok .noMatch := by
  constructor
  · rintro ⟨hclear, hpairwise⟩ r hr
    have hother := List.rel_of_pairwise_cons hpairwise hr
    rcases hclear r (List.mem_cons_of_mem _ hr) with h | h
    · exact h
    · exact absurd ⟨rfl, h⟩ hother
  · intro h
    refine ⟨List.forall_mem_cons.mpr ⟨.inr rfl, fun r hr => .inl (h r hr)⟩, ?_⟩
    refine List.pairwise_cons.mpr ⟨?_, .imp_of_mem ?_ (List.pairwise_of_forall fun _ _ => trivial)⟩
    · rintro r hr ⟨-, hmatch⟩
      cases (h r hr).symm.trans hmatch
    · rintro r r' hr - - ⟨hmatch, -⟩
      cases (h r hr).symm.trans hmatch

lemma error_cons (e : ε) : ¬ Unambiguous (.error e :: looks) := by
  rintro ⟨h, -⟩
  rcases h _ List.mem_cons_self with h | h <;> cases h

lemma indeterminate_cons (e : EvaluationError) :
    ¬ Unambiguous (.ok (.indeterminate e) :: looks) := by
  rintro ⟨h, -⟩
  rcases h _ List.mem_cons_self with h | h <;> cases h

end Unambiguous

namespace Combining

variable {ε σ : Type} {n : ℕ} (evaluate : Fin n → ExceptT ε (StateM σ) Decision)
  (probe : Fin n → ExceptT ε (StateM σ) MatchResult) (version : Version)

/-- Once a target has matched, the others are looked at as long as they do not match. -/
lemma exists_calls_of_matched (i : Fin n) (is : List (Fin n)) (s : σ) :
    ∃ looks : List (Except ε MatchResult),
      AsksWhile (fun l => ∀ r ∈ l, r = .ok .noMatch) is.length looks ∧
      ((¬ (∀ r ∈ looks, r = .ok .noMatch) ∧
          (onlyOneApplicableOf version (some i) is).calls evaluate probe s =
            List.zipWith (fun j r => .probed j r) is looks) ∨
        ∃ answer, (∀ r ∈ looks, r = .ok .noMatch) ∧
          (onlyOneApplicableOf version (some i) is).calls evaluate probe s =
            List.zipWith (fun j r => .probed j r) is looks ++ [.evaluated i answer]) := by
  have hnil : ∀ r ∈ ([] : List (Except ε MatchResult)), r = .ok .noMatch := List.forall_mem_nil _
  induction is generalizing s with
  | nil =>
    refine ⟨[], .nil hnil, .inr ⟨(evaluate i s).1, hnil, ?_⟩⟩
    rw [onlyOneApplicableOf, Plan.calls]
    rcases evaluate i s with ⟨_ | _, _⟩ <;> rfl
  | cons j is ih =>
    have hstop : ∀ r : Except ε MatchResult, r ≠ .ok .noMatch → ¬ ∀ r' ∈ [r], r' = .ok .noMatch :=
      fun r hr h => hr (h r List.mem_cons_self)
    rw [onlyOneApplicableOf, Plan.calls]
    rcases probe j s with ⟨e | m, s'⟩
    · have hr := hstop (.error e) nofun
      exact ⟨[.error e], .last hnil hr, .inl ⟨hr, by simp⟩⟩
    · cases m with
      | noMatch =>
        obtain ⟨looks, hasks, hcalls⟩ := ih s'
        have hcons : ∀ l : List (Except ε MatchResult), (∀ r ∈ l, r = .ok .noMatch) ↔
            ∀ r ∈ .ok .noMatch :: l, r = .ok .noMatch := by simp
        refine ⟨.ok .noMatch :: looks, .cons hnil (hasks.congr hcons), hcalls.imp ?_ ?_⟩
        · rintro ⟨hdecided, hcalls⟩
          exact ⟨mt (hcons looks).mpr hdecided, congrArg (Call.probed j (.ok .noMatch) :: ·) hcalls⟩
        · rintro ⟨answer, hclear, hcalls⟩
          exact ⟨answer, (hcons looks).mp hclear,
            congrArg (Call.probed j (.ok .noMatch) :: ·) hcalls⟩
      | isMatch =>
        have hr := hstop (.ok .isMatch) nofun
        exact ⟨[.ok .isMatch], .last hnil hr, .inl ⟨hr, by simp [Plan.calls]⟩⟩
      | indeterminate e =>
        have hr := hstop (.ok (.indeterminate e)) nofun
        exact ⟨[.ok (.indeterminate e)], .last hnil hr, .inl ⟨hr, by simp [Plan.calls]⟩⟩

/-- The targets are looked at as long as they are unambiguous; then at most the child whose target
matched is evaluated. -/
lemma exists_calls_onlyOneApplicableOf (is : List (Fin n)) (s : σ) :
    ∃ looks : List (Except ε MatchResult), AsksWhile Unambiguous is.length looks ∧
      (((Unambiguous looks → .ok .isMatch ∉ looks) ∧
          (onlyOneApplicableOf version none is).calls evaluate probe s =
            List.zipWith (fun j r => .probed j r) is looks) ∨
        ∃ i answer, Unambiguous looks ∧ (i, .ok .isMatch) ∈ is.zip looks ∧
          (onlyOneApplicableOf version none is).calls evaluate probe s =
            List.zipWith (fun j r => .probed j r) is looks ++ [.evaluated i answer]) := by
  induction is generalizing s with
  | nil => exact ⟨[], .nil .nil, .inl ⟨fun _ => List.not_mem_nil, rfl⟩⟩
  | cons j is ih =>
    rw [onlyOneApplicableOf, Plan.calls]
    rcases probe j s with ⟨e | m, s'⟩
    · exact ⟨[.error e], .last .nil (Unambiguous.error_cons e), .inl ⟨by simp, by simp⟩⟩
    · cases m with
      | noMatch =>
        obtain ⟨looks, hasks, hcalls⟩ := ih s'
        refine ⟨.ok .noMatch :: looks,
          .cons .nil (hasks.congr fun _ => Unambiguous.cons_noMatch.symm), hcalls.imp ?_ ?_⟩
        · rintro ⟨hnone, hcalls⟩
          refine ⟨fun h => ?_, congrArg (Call.probed j (.ok .noMatch) :: ·) hcalls⟩
          simpa using hnone (Unambiguous.cons_noMatch.mp h)
        · rintro ⟨i, answer, hclear, hmem, hcalls⟩
          exact ⟨i, answer, Unambiguous.cons_noMatch.mpr hclear, List.mem_cons_of_mem _ hmem,
            congrArg (Call.probed j (.ok .noMatch) :: ·) hcalls⟩
      | isMatch =>
        obtain ⟨looks, hasks, hcalls⟩ := exists_calls_of_matched evaluate probe version j is s'
        refine ⟨.ok .isMatch :: looks,
          .cons .nil (hasks.congr fun _ => Unambiguous.cons_isMatch.symm), hcalls.imp ?_ ?_⟩
        · rintro ⟨hdecided, hcalls⟩
          exact ⟨fun h => absurd (Unambiguous.cons_isMatch.mp h) hdecided,
            congrArg (Call.probed j (.ok .isMatch) :: ·) hcalls⟩
        · rintro ⟨answer, hclear, hcalls⟩
          exact ⟨j, answer, Unambiguous.cons_isMatch.mpr hclear, List.mem_cons_self,
            congrArg (Call.probed j (.ok .isMatch) :: ·) hcalls⟩
      | indeterminate e =>
        exact ⟨[.ok (.indeterminate e)], .last .nil (Unambiguous.indeterminate_cons e),
          .inl ⟨by simp, by simp [Plan.calls]⟩⟩

end Combining

section Recorded

variable {ε σ : Type} (a : CombiningAlgorithm) (children : List (Child (ExceptT ε (StateM σ))))
  (parameters : List Parameter) (version : Version)

lemma CombiningAlgorithm.run_mapIdx {m m' : Type → Type} [Monad m'] (a : CombiningAlgorithm)
    (f : ℕ → Child m → Child m') (hf : ∀ i c, (f i c).info = c.info) (children : List (Child m))
    (parameters : List Parameter) (version : Version) :
    a.run (children.mapIdx f) parameters version = (a.plan children parameters version).run
      (fun i => (f i (children.get i)).evaluate) (fun i => (f i (children.get i)).probe) := by
  have key : ∀ (k : ℕ) (h : k = (children.mapIdx f).length),
      a.run (children.mapIdx f) parameters version =
        (a k (fun i => ((children.mapIdx f).get (i.cast h)).info) parameters version).run
          (fun i => ((children.mapIdx f).get (i.cast h)).evaluate)
          (fun i => ((children.mapIdx f).get (i.cast h)).probe) := by
    rintro k rfl
    rfl
  rw [key children.length (by simp), plan]
  simp only [List.get_eq_getElem, Fin.val_cast, List.getElem_mapIdx, hf]

lemma CombiningAlgorithm.run_recorded (s : σ) :
    a.run (children.mapIdx Child.recorded) parameters version (s, []) =
      ((a.run children parameters version s).1, (a.run children parameters version s).2,
        (a.plan children parameters version).calls (fun i => (children.get i).evaluate)
          (fun i => (children.get i).probe) s) := by
  rw [a.run_mapIdx Child.recorded fun _ _ => rfl]
  exact Plan.run_recording _ _ _ s []

lemma CombiningAlgorithm.calls_eq (s : σ) : a.calls children parameters version s =
    (a.plan children parameters version).calls (fun i => (children.get i).evaluate)
      (fun i => (children.get i).probe) s := by
  rw [calls, run_recorded]

end Recorded

namespace Call

variable {ε α β : Type} {n : ℕ}

lemma zipWith_finRange (f : ℕ → α → β) {answers : List α} (h : answers.length ≤ n) :
    List.zipWith (fun (i : Fin n) r => f i r) (List.finRange n) answers = answers.mapIdx f := by
  apply List.ext_getElem
  · simpa using h
  · intro k hk hk'
    simp

lemma getElem?_of_mem_zip {answers : List α} {i : Fin n} {r : α}
    (h : (i, r) ∈ (List.finRange n).zip answers) : answers[i.val]? = some r := by
  obtain ⟨k, hk, hr⟩ := List.mem_iff_getElem.mp h
  simp only [List.getElem_zip, List.getElem_finRange, Prod.mk.injEq] at hr
  obtain ⟨rfl, rfl⟩ := hr
  simp

/-- The evaluated children come in order, and none comes twice. -/
lemma pairwise_evaluated (answers : List (Except ε Decision)) :
    ((answers.mapIdx evaluated).filterMap evaluation?).Pairwise (· < ·) := by
  have hindices : (answers.mapIdx evaluated).filterMap evaluation? = List.range answers.length := by
    rw [List.mapIdx_eq_zipIdx_map, List.filterMap_map, List.range_eq_range',
      ← List.zipIdx_map_snd, ← List.filterMap_eq_map]
    rfl
  rw [hindices]
  exact List.pairwise_lt_range

lemma filterMap_probed (looks : List (Except ε MatchResult)) :
    (looks.mapIdx probed).filterMap evaluation? = [] := by
  rw [List.mapIdx_eq_zipIdx_map, List.filterMap_map]
  exact List.filterMap_eq_nil_iff.mpr fun _ _ => rfl

end Call

namespace StandardAlgorithm

/-- The decisions of a child after which no other child is evaluated. -/
def Settles : StandardAlgorithm → Decision → Prop
  | denyOverrides, d | permitUnlessDeny, d => d = .deny
  | permitOverrides, d | denyUnlessPermit, d => d = .permit
  | firstApplicable, d => d ≠ .notApplicable
  | onlyOneApplicable, _ => True

lemma asksUntil {a : StandardAlgorithm} (ha : a ≠ onlyOneApplicable) {n : ℕ}
    (info : Fin n → ChildInfo) (parameters : List Parameter) (version : Version) :
    (a.algorithm n info parameters version).AsksUntil a.Settles (List.finRange n) := by
  cases a with
  | denyOverrides => exact Combining.asksUntil_overrides .deny info parameters version
  | permitOverrides => exact Combining.asksUntil_overrides .permit info parameters version
  | firstApplicable => exact Combining.asksUntil_firstApplicableOf version _
  | onlyOneApplicable => exact absurd rfl ha
  | denyUnlessPermit => exact Combining.asksUntil_byDefault .deny info parameters version
  | permitUnlessDeny => exact Combining.asksUntil_byDefault .permit info parameters version

variable {ε σ : Type} (children : List (Child (ExceptT ε (StateM σ))))
  (parameters : List Parameter) (version : Version) (s : σ)

lemma exists_calls {a : StandardAlgorithm} (ha : a ≠ onlyOneApplicable) :
    ∃ answers, AsksWhile (Undecided a.Settles) children.length answers ∧
      a.algorithm.calls children parameters version s = answers.mapIdx Call.evaluated := by
  obtain ⟨answers, hasks, hcalls⟩ := (asksUntil ha (fun i => (children.get i).info) parameters
    version).exists_calls (fun i => (children.get i).evaluate) (fun i => (children.get i).probe) s
  rw [List.length_finRange] at hasks
  refine ⟨answers, hasks, ?_⟩
  rw [CombiningAlgorithm.calls_eq, ← Call.zipWith_finRange Call.evaluated hasks.length_le]
  exact hcalls

lemma exists_calls_onlyOneApplicable :
    ∃ looks : List (Except ε MatchResult), AsksWhile Unambiguous children.length looks ∧
      (((Unambiguous looks → .ok .isMatch ∉ looks) ∧
          onlyOneApplicable.algorithm.calls children parameters version s =
            looks.mapIdx Call.probed) ∨
        ∃ (i : ℕ) (answer : Except ε Decision), Unambiguous looks ∧
          looks[i]? = some (.ok .isMatch) ∧
          onlyOneApplicable.algorithm.calls children parameters version s =
            looks.mapIdx Call.probed ++ [.evaluated i answer]) := by
  obtain ⟨looks, hasks, hcalls⟩ := Combining.exists_calls_onlyOneApplicableOf
    (fun i => (children.get i).evaluate) (fun i => (children.get i).probe) version
    (List.finRange children.length) s
  rw [List.length_finRange] at hasks
  rw [Call.zipWith_finRange Call.probed hasks.length_le] at hcalls
  refine ⟨looks, hasks, ?_⟩
  rw [CombiningAlgorithm.calls_eq]
  refine hcalls.imp id ?_
  rintro ⟨i, answer, hclear, hmem, hcalls⟩
  exact ⟨i, answer, hclear, Call.getElem?_of_mem_zip hmem, hcalls⟩

/-- Children are evaluated in order, each at most once. -/
lemma pairwise_evaluation (a : StandardAlgorithm) :
    ((a.algorithm.calls children parameters version s).filterMap Call.evaluation?).Pairwise
      (· < ·) := by
  by_cases ha : a = onlyOneApplicable
  · subst ha
    obtain ⟨looks, -, ⟨-, hcalls⟩ | ⟨i, answer, -, -, hcalls⟩⟩ :=
      exists_calls_onlyOneApplicable children parameters version s
    · rw [hcalls, Call.filterMap_probed]
      exact .nil
    · rw [hcalls, List.filterMap_append, Call.filterMap_probed]
      exact List.pairwise_singleton _ _
  · obtain ⟨answers, -, hcalls⟩ := exists_calls children parameters version s ha
    rw [hcalls]
    exact Call.pairwise_evaluated answers

/-- Children are evaluated in order, each at most once, and none after the answer that settles the
matter. Where only one child may apply, its evaluation follows a look at the targets, which ends
as soon as they are ambiguous. The record of the calls shows that an error of a child is the last
call and the result. -/
theorem asks_in_order (a : StandardAlgorithm) :
    let run := a.algorithm.run children parameters version s
    let calls := a.algorithm.calls children parameters version s
    a.algorithm.run (children.mapIdx Child.recorded) parameters version (s, []) =
        (run.1, run.2, calls) ∧
      (calls.filterMap Call.evaluation?).Pairwise (· < ·) ∧
      (a ≠ onlyOneApplicable →
        ∃ answers, AsksWhile (Undecided a.Settles) children.length answers ∧
          calls = answers.mapIdx Call.evaluated) ∧
      (a = onlyOneApplicable →
        ∃ looks, AsksWhile Unambiguous children.length looks ∧
          (((Unambiguous looks → .ok .isMatch ∉ looks) ∧ calls = looks.mapIdx Call.probed) ∨
            ∃ (i : ℕ) (answer : Except ε Decision), Unambiguous looks ∧
              looks[i]? = some (.ok .isMatch) ∧
              calls = looks.mapIdx Call.probed ++ [.evaluated i answer])) ∧
      (∀ call ∈ calls.dropLast, call.error? = none) ∧
      ∀ e, run.1 = .error e ↔ calls.getLast?.bind Call.error? = some e := by
  intro run calls
  have hcalls : calls = _ := CombiningAlgorithm.calls_eq a.algorithm children parameters version s
  refine ⟨?_, pairwise_evaluation children parameters version s a,
    exists_calls children parameters version s, ?_, ?_, ?_⟩
  · rw [CombiningAlgorithm.run_recorded, hcalls]
  · rintro rfl
    exact exists_calls_onlyOneApplicable children parameters version s
  · rw [hcalls]
    exact Plan.error?_eq_none_of_mem_dropLast _ s
  · intro e
    rw [hcalls]
    exact Plan.run_eq_error_iff

end StandardAlgorithm

end PolicyDecision
