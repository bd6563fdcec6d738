import PolicyDecision.Proofs.Attributes.Paths
import Mathlib.Data.List.Perm.Basic

/-! Environments in which attributes have the same values, in another order. -/

namespace PolicyDecision

/-- Both succeed, with results so related, or both fail, with errors so related. -/
inductive Correspond {ε ε' α β : Type} (E : ε → ε' → Prop) (R : α → β → Prop) :
    Except ε α → Except ε' β → Prop
  | ok {a : α} {b : β} (h : R a b) : Correspond E R (.ok a) (.ok b)
  | error {e : ε} {e' : ε'} (h : E e e') : Correspond E R (.error e) (.error e')

section Correspond

variable {ε ε' α β γ δ : Type} {E : ε → ε' → Prop} {R : α → β → Prop} {S : γ → δ → Prop}

lemma correspond_refl {E : ε → ε → Prop} {R : α → α → Prop} (hE : ∀ e, E e e) (hR : ∀ a, R a a)
    (x : Except ε α) : Correspond E R x x := by
  cases x with
  | ok a => exact .ok (hR a)
  | error e => exact .error (hE e)

lemma Correspond.bind {x : Except ε α} {y : Except ε' β} {f : α → Except ε γ} {g : β → Except ε' δ}
    (h : Correspond E R x y) (hfg : ∀ a b, R a b → Correspond E S (f a) (g b)) :
    Correspond E S (x >>= f) (y >>= g) := by
  cases h with
  | ok h => exact hfg _ _ h
  | error h => exact .error h

lemma Correspond.mapError {η η' : Type} {F : η → η' → Prop} {x : Except ε α} {y : Except ε' β}
    (h : Correspond E R x y) {f : ε → η} {g : ε' → η'} (hfg : ∀ e e', F (f e) (g e')) :
    Correspond F R (x.mapError f) (y.mapError g) := by
  cases h with
  | ok h => exact .ok h
  | error h => exact .error (hfg _ _)

/-- Steps along a list fail in any order if they do in one, though not with the same error. -/
lemma correspond_mapM {f : α → Except ε β} {l l' : List α} (h : l.Perm l') :
    Correspond (fun _ _ => True) List.Perm (l.mapM f) (l'.mapM f) := by
  induction h with
  | nil => exact .ok .nil
  | cons a _ ih =>
    rw [List.mapM_cons, List.mapM_cons]
    refine (correspond_refl (fun _ => trivial) Eq.refl (f a)).bind ?_
    rintro b _ rfl
    exact ih.bind fun bs bs' hbs => .ok (hbs.cons b)
  | swap a a' l =>
    simp only [List.mapM_cons]
    cases f a with
    | error e => cases f a' <;> exact .error trivial
    | ok b =>
      cases f a' with
      | error e => exact .error trivial
      | ok b' =>
        cases l.mapM f with
        | error e => exact .error trivial
        | ok bs => exact .ok (.swap _ _ _)
  | trans _ _ ih ih' =>
    revert ih ih'
    generalize List.mapM f _ = x
    generalize List.mapM f _ = y
    generalize List.mapM f _ = z
    rintro (h | -) (h' | -)
    · exact .ok (h.trans h')
    · exact .error trivial

end Correspond

/-- Errors of the configuration are equal, those of the evaluation need not be. -/
inductive Fault.Alike : Fault → Fault → Prop
  | evaluation (e e' : EvaluationError) : Alike (.evaluation e) (.evaluation e')
  | configuration (e : ConfigurationError) : Alike (.configuration e) (.configuration e)

lemma Fault.alike_refl (e : Fault) : e.Alike e := by
  cases e with
  | evaluation e => exact .evaluation e e
  | configuration e => exact .configuration e

namespace Environment

/-- The bags hold the same values, in any order. -/
def SameValues (b b' : Bag) : Prop := b.values.Perm b'.values

/-- The second environment finds the values that the first one finds, in any order, and functions
are the same in both. -/
structure Shuffles (env env' : Environment) : Prop where
  functions : env'.functions = env.functions
  call : env'.call = env.call
  attributes : ∀ a, Correspond Fault.Alike SameValues (env.attributes a) (env'.attributes a)

variable {env env' : Environment}

lemma SameValues.isEmpty_eq {b b' : Bag} (h : SameValues b b') : b'.isEmpty = b.isEmpty := by
  rw [Bag.isEmpty, Bag.isEmpty, Bool.eq_iff_iff, List.isEmpty_iff, List.isEmpty_iff]
  exact ⟨fun hnil => List.Perm.eq_nil (hnil ▸ h), fun hnil => List.Perm.eq_nil (hnil ▸ h.symm)⟩

lemma correspond_readBag (type : DataType) {texts texts' : List String} (h : texts.Perm texts') :
    Correspond (fun _ _ => True) SameValues (readBag type texts) (readBag type texts') := by
  have hread : Correspond (fun _ _ => True) List.Perm (texts.mapM (Value.read type))
      (texts'.mapM (Value.read type)) := correspond_mapM h
  unfold readBag
  generalize texts.mapM (Value.read type) = x at hread ⊢
  generalize texts'.mapM (Value.read type) = y at hread ⊢
  cases hread with
  | ok h => exact .ok h
  | error h => exact .error trivial

lemma correspond_designate (hclock : env'.clock = env.clock)
    (hvalues : ∀ query, Correspond (fun _ _ => True) List.Perm (env.source.values query)
      (env'.source.values query)) (d : Designator) :
    Correspond Fault.Alike SameValues (env.designate d) (env'.designate d) := by
  refine (correspond_refl Fault.alike_refl Eq.refl (requireType d.dataType)).bind ?_
  rintro type _ rfl
  refine ((hvalues _).mapError Fault.Alike.evaluation).bind fun texts texts' htexts => ?_
  refine ((correspond_readBag type htexts).mapError Fault.Alike.evaluation).bind
    fun found found' hfound => ?_
  have hbag : SameValues
      (if found.isEmpty then ⟨type, (env.clockValue? d type).toList⟩ else found)
      (if found'.isEmpty then ⟨type, (env'.clockValue? d type).toList⟩ else found') := by
    rw [hfound.isEmpty_eq, clockValue?_of_clock hclock]
    split
    · exact .refl _
    · exact hfound
  simp only
  generalize (if found.isEmpty then _ else found : Bag) = bag at hbag ⊢
  generalize (if found'.isEmpty then _ else found' : Bag) = bag' at hbag ⊢
  rw [hbag.isEmpty_eq]
  split
  · exact .error (Fault.alike_refl _)
  · exact .ok hbag

/-- A source without paths is seen through the values of attributes only. -/
theorem shuffles_of_pathless (hstandard : env.functions = .standard)
    (hfunctions : env'.functions = env.functions) (h : env.source.Pathless)
    (h' : env'.source.Pathless) (hclock : env'.clock = env.clock)
    (hvalues : ∀ query, Correspond (fun _ _ => True) List.Perm (env.source.values query)
      (env'.source.values query)) : env.Shuffles env' := by
  have halike : AnswersAlike (fun _ => False) env env' :=
    answersAlike_of_pathless hstandard hfunctions h h' hclock fun _ hd => hd.elim
  refine ⟨halike.functions, halike.call, fun a => ?_⟩
  cases a with
  | designator d => exact correspond_designate hclock hvalues d
  | selector s =>
    change Correspond Fault.Alike SameValues (env.select s) (env'.select s)
    rw [halike.select]
    exact correspond_refl Fault.alike_refl (fun _ => .refl _) (env.select s)

end Environment

end PolicyDecision
