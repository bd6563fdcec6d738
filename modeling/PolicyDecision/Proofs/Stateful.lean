import PolicyDecision.Evaluation.PolicySet
import Mathlib.Data.List.Forall2
import Mathlib.Tactic.Common

/-! What computations with a state yield, and which errors they can raise. The evaluations of
expressions and of nodes are both of this kind. -/

namespace PolicyDecision.Stateful

variable {ε σ α β : Type}

@[simp] lemma pure_apply (a : α) (s : σ) : (pure a : ExceptT ε (StateM σ) α) s = (.ok a, s) := rfl

@[simp] lemma get_apply (s : σ) : (get : ExceptT ε (StateM σ) σ) s = (.ok s, s) := rfl

@[simp] lemma modify_apply (f : σ → σ) (s : σ) :
    (modify f : ExceptT ε (StateM σ) PUnit) s = (.ok ⟨⟩, f s) := rfl

lemma bind_apply (x : ExceptT ε (StateM σ) α) (f : α → ExceptT ε (StateM σ) β) (s : σ) :
    (x >>= f) s = match x s with
      | (.ok a, s') => f a s'
      | (.error e, s') => (.error e, s') := by
  change (match x s with | (a, s') => ExceptT.bindCont f a s') = _
  rcases x s with ⟨_ | _, _⟩ <;> rfl

lemma tryCatch_apply (x : ExceptT ε (StateM σ) α) (handle : ε → ExceptT ε (StateM σ) α) (s : σ) :
    tryCatch x handle s = match x s with
      | (.ok a, s') => (.ok a, s')
      | (.error e, s') => handle e s' := by
  change (match x s with | (r, s') => (match r with
    | .ok a => (pure (.ok a) : StateM σ (Except ε α))
    | .error e => handle e) s') = _
  rcases x s with ⟨_ | _, _⟩ <;> rfl

lemma map_apply (f : α → β) (x : ExceptT ε (StateM σ) α) (s : σ) :
    (f <$> x) s = ((x s).1.map f, (x s).2) := by
  rw [map_eq_pure_bind, bind_apply]
  rcases x s with ⟨_ | _, _⟩ <;> rfl

lemma mapM_cons_apply (f : α → ExceptT ε (StateM σ) β) (a : α) (l : List α) (s : σ) :
    (a :: l).mapM f s = match f a s with
      | (.ok b, s') => ((l.mapM f s').1.map (b :: ·), (l.mapM f s').2)
      | (.error e, s') => (.error e, s') := by
  rw [List.mapM_cons, bind_apply]
  rcases f a s with ⟨_ | b, s'⟩
  · rfl
  · simp only
    rw [bind_apply]
    rcases l.mapM f s' with ⟨_ | _, _⟩ <;> rfl

/-- Computations that do not touch the state do not do so along a list either. -/
lemma mapM_stateless {f : α → ExceptT ε (StateM σ) β} {g : α → Except ε β} {l : List α}
    (h : ∀ a ∈ l, ∀ s, f a s = (g a, s)) (s : σ) : l.mapM f s = (l.mapM g, s) := by
  induction l with
  | nil => rfl
  | cons a l ih =>
    rw [mapM_cons_apply, h a List.mem_cons_self, List.mapM_cons]
    cases g a with
    | error e => rfl
    | ok b =>
      simp only
      rw [ih fun c hc => h c (List.mem_cons_of_mem a hc)]
      cases l.mapM g <;> rfl

/-- Two computations that agree where an invariant holds, and preserve it, agree along a list. -/
lemma mapM_congr {f g : α → ExceptT ε (StateM σ) β} {I : σ → Prop} {l : List α}
    (h : ∀ a ∈ l, ∀ s, I s → f a s = g a s ∧ I (f a s).2) (s : σ) (hs : I s) :
    l.mapM f s = l.mapM g s ∧ I (l.mapM f s).2 := by
  induction l generalizing s with
  | nil => exact ⟨rfl, hs⟩
  | cons a l ih =>
    obtain ⟨heq, hI⟩ := h a List.mem_cons_self s hs
    rw [mapM_cons_apply, mapM_cons_apply, ← heq]
    rcases hx : f a s with ⟨e | b, s'⟩
    · rw [hx] at hI
      exact ⟨rfl, hI⟩
    · rw [hx] at hI
      obtain ⟨htail, hI'⟩ := ih (fun c hc => h c (List.mem_cons_of_mem a hc)) s' hI
      exact ⟨by simp only [htail], hI'⟩

lemma mapM_eq_mapM {f g : α → ExceptT ε (StateM σ) β} {l : List α} (h : ∀ a ∈ l, f a = g a) :
    l.mapM f = l.mapM g := by
  funext s
  exact (mapM_congr (I := fun _ => True) (fun a ha s _ => ⟨congrFun (h a ha) s, trivial⟩) s
    trivial).1

/-- A sequence yields what its second part yields after the first. -/
lemma bind_eq_ok {x : ExceptT ε (StateM σ) α} {f : α → ExceptT ε (StateM σ) β} {s s' : σ} {b : β} :
    (x >>= f) s = (.ok b, s') ↔ ∃ a t, x s = (.ok a, t) ∧ f a t = (.ok b, s') := by
  rw [bind_apply]
  constructor
  · intro h
    split at h
    · exact ⟨_, _, ‹_›, h⟩
    · cases h
  · rintro ⟨a, t, hx, hf⟩
    simpa only [hx] using hf

/-- What holds of every result of a computation holds of all the results along a list. -/
lemma forall_of_mapM_eq_ok {f : α → ExceptT ε (StateM σ) β} {P : β → Prop}
    (h : ∀ a b s s', f a s = (.ok b, s') → P b) {l : List α} {bs : List β} {s s' : σ}
    (hl : l.mapM f s = (.ok bs, s')) : ∀ b ∈ bs, P b := by
  induction l generalizing bs s with
  | nil =>
    cases hl
    simp
  | cons a l ih =>
    rw [mapM_cons_apply] at hl
    split at hl
    · rename_i b s₁ hb
      rcases htail : l.mapM f s₁ with ⟨_ | bs', s₂⟩
      · simp only [htail] at hl
        cases hl
      · simp only [htail] at hl
        cases hl
        exact List.forall_mem_cons.mpr ⟨h a b s s₁ hb, ih htail⟩
    · cases hl

lemma forall_of_except_mapM_eq_ok {f : α → Except ε β} {P : β → Prop}
    (h : ∀ a b, f a = .ok b → P b) {l : List α} {bs : List β} (hl : l.mapM f = .ok bs) :
    ∀ b ∈ bs, P b :=
  forall_of_mapM_eq_ok (fun a b _ _ hb => h a b (congrArg Prod.fst hb))
    ((mapM_stateless (fun _ _ _ => rfl) ()).trans (by rw [hl]))

lemma except_bind_eq_ok {x : Except ε α} {f : α → Except ε β} {b : β} :
    (x >>= f) = .ok b ↔ ∃ a, x = .ok a ∧ f a = .ok b := by
  cases x with
  | error e =>
    constructor
    · intro h
      cases h
    · rintro ⟨a, ha, -⟩
      cases ha
  | ok a =>
    constructor
    · intro h
      exact ⟨a, rfl, h⟩
    · rintro ⟨a', ha, h⟩
      cases ha
      exact h

lemma except_map_eq_ok {x : Except ε α} {f : α → β} {b : β} :
    x.map f = .ok b ↔ ∃ a, x = .ok a ∧ f a = b := by
  cases x <;> simp [Except.map]

lemma except_mapError_eq_ok {ε' : Type} {x : Except ε α} {f : ε → ε'} {a : α} :
    x.mapError f = .ok a ↔ x = .ok a := by
  cases x <;> simp [Except.mapError]

/-- The results along a list are those of its members. -/
lemma forall₂_of_except_mapM_eq_ok {f : α → Except ε β} {l : List α} {bs : List β}
    (h : l.mapM f = .ok bs) : List.Forall₂ (fun a b => a ∈ l ∧ f a = .ok b) l bs := by
  induction l generalizing bs with
  | nil =>
    cases h
    exact .nil
  | cons a l ih =>
    rw [List.mapM_cons] at h
    obtain ⟨b, hb, h⟩ := except_bind_eq_ok.mp h
    obtain ⟨bs', hbs, h⟩ := except_bind_eq_ok.mp h
    cases h
    refine .cons ⟨List.mem_cons_self, hb⟩ (List.Forall₂.imp ?_ (ih hbs))
    rintro c d ⟨hc, hd⟩
    exact ⟨List.mem_cons_of_mem a hc, hd⟩

lemma except_mapM_eq_ok {f : α → Except ε β} {l : List α} {bs : List β} :
    l.mapM f = .ok bs ↔ List.Forall₂ (fun a b => f a = .ok b) l bs := by
  constructor
  · intro h
    exact (forall₂_of_except_mapM_eq_ok h).imp fun _ _ hab => hab.2
  · intro h
    induction h with
    | nil => rfl
    | cons hab _ ih =>
      rw [List.mapM_cons]
      exact except_bind_eq_ok.mpr ⟨_, hab, except_bind_eq_ok.mpr ⟨_, ih, rfl⟩⟩

/-- Steps that come to what other steps come to, mapped, do so along a list. -/
lemma except_mapM_map {β' : Type} {f : α → Except ε β} {f' : α → Except ε β'} {h : β → β'}
    (hstep : ∀ a, f' a = (f a).map h) (l : List α) :
    l.mapM f' = (l.mapM f).map (List.map h) := by
  induction l with
  | nil => rfl
  | cons a l ih =>
    rw [List.mapM_cons, List.mapM_cons, hstep, ih]
    cases f a with
    | error e => rfl
    | ok b => cases l.mapM f <;> rfl

/-- If the result is an error, then one of the given sort. -/
def Errors (P : ε → Prop) (x : Except ε α) : Prop := ∀ e, x = .error e → P e

section Errors

variable {P : ε → Prop}

lemma errors_ok (a : α) : Errors P (.ok a : Except ε α) := by
  intro e h
  cases h

lemma errors_error {e : ε} (h : P e) : Errors P (.error e : Except ε α) := by
  intro e' he
  cases he
  exact h

lemma errors_bind {x : Except ε α} {f : α → Except ε β} (hx : Errors P x)
    (hf : ∀ a, Errors P (f a)) : Errors P (x >>= f) := by
  cases x with
  | ok a => exact hf a
  | error e => exact errors_error (hx e rfl)

lemma errors_map {x : Except ε α} (f : α → β) (hx : Errors P x) : Errors P (f <$> x) := by
  cases x with
  | ok a => exact errors_ok (f a)
  | error e => exact errors_error (hx e rfl)

/-- Errors that are named otherwise are of the sort that their new names are. -/
lemma errors_mapError_of {ε' : Type} {P' : ε' → Prop} {f : ε → ε'} {x : Except ε α}
    (hf : ∀ e, P e → P' (f e)) (hx : Errors P x) : Errors P' (x.mapError f) := by
  cases x with
  | ok a => exact errors_ok a
  | error e => exact errors_error (hf e (hx e rfl))

lemma errors_mapM {f : α → Except ε β} {l : List α} (h : ∀ a ∈ l, Errors P (f a)) :
    Errors P (l.mapM f) := by
  induction l with
  | nil => exact errors_ok []
  | cons a l ih =>
    rw [List.mapM_cons]
    refine errors_bind (h a List.mem_cons_self) fun b => ?_
    exact errors_bind (ih fun c hc => h c (List.mem_cons_of_mem a hc)) fun bs => errors_ok _

lemma errors_foldlM {f : β → α → Except ε β} {l : List α} (h : ∀ b, ∀ a ∈ l, Errors P (f b a))
    (b : β) : Errors P (l.foldlM f b) := by
  induction l generalizing b with
  | nil => exact errors_ok b
  | cons a l ih =>
    rw [List.foldlM_cons]
    exact errors_bind (h b a List.mem_cons_self) (ih fun b c hc => h b c (List.mem_cons_of_mem a hc))

end Errors

/-- If there is a result, then one with the property. -/
def Yields (P : α → Prop) (x : Except ε α) : Prop := ∀ a, x = .ok a → P a

section Yields

variable {P : β → Prop} {x : Except ε α}

lemma yields_ok {b : β} (h : P b) : Yields P (.ok b : Except ε β) := by
  intro b' hb
  cases hb
  exact h

lemma yields_error (e : ε) : Yields P (.error e : Except ε β) := by
  intro b hb
  cases hb

lemma yields_bind {Q : α → Prop} {f : α → Except ε β} (hx : Yields Q x)
    (hf : ∀ a, Q a → Yields P (f a)) : Yields P (x >>= f) := by
  intro b hb
  obtain ⟨a, ha, hb⟩ := except_bind_eq_ok.mp hb
  exact hf a (hx a ha) b hb

/-- Nothing need be known of what comes before. -/
lemma yields_then {f : α → Except ε β} (hf : ∀ a, Yields P (f a)) : Yields P (x >>= f) :=
  yields_bind (Q := fun _ => True) (fun _ _ => trivial) fun a _ => hf a

lemma yields_map {f : α → β} (hx : Yields (fun a => P (f a)) x) : Yields P (f <$> x) := by
  intro b hb
  obtain ⟨a, ha, rfl⟩ := except_map_eq_ok.mp hb
  exact hx a ha

lemma yields_mapM {f : α → Except ε β} {l : List α} (h : ∀ a, Yields P (f a)) :
    Yields (fun bs => ∀ b ∈ bs, P b) (l.mapM f) :=
  fun _ hl => forall_of_except_mapM_eq_ok h hl

end Yields

/-- From a state with the invariant, the computation keeps it and raises only errors of the given
sort. -/
def Ensures (I : σ → Prop) (P : ε → Prop) (x : ExceptT ε (StateM σ) α) : Prop :=
  ∀ s, I s → I (x s).2 ∧ Errors P (x s).1

section Ensures

variable {I : σ → Prop} {P : ε → Prop} {x : ExceptT ε (StateM σ) α}

lemma ensures_pure (a : α) : Ensures I P (pure a : ExceptT ε (StateM σ) α) :=
  fun _ hs => ⟨hs, errors_ok a⟩

lemma ensures_bind {f : α → ExceptT ε (StateM σ) β} (hx : Ensures I P x)
    (hf : ∀ a, Ensures I P (f a)) : Ensures I P (x >>= f) := by
  intro s hs
  obtain ⟨hI, herrors⟩ := hx s hs
  rw [bind_apply]
  rcases hxs : x s with ⟨e | a, s'⟩
  · rw [hxs] at hI herrors
    exact ⟨hI, errors_error (herrors e rfl)⟩
  · rw [hxs] at hI
    exact hf a s' hI

lemma ensures_map (f : α → β) (hx : Ensures I P x) : Ensures I P (f <$> x) := by
  rw [map_eq_pure_bind]
  exact ensures_bind hx fun a => ensures_pure _

lemma ensures_mapM {f : α → ExceptT ε (StateM σ) β} {l : List α}
    (h : ∀ a ∈ l, Ensures I P (f a)) : Ensures I P (l.mapM f) := by
  induction l with
  | nil => exact ensures_pure []
  | cons a l ih =>
    rw [List.mapM_cons]
    refine ensures_bind (h a List.mem_cons_self) fun b => ?_
    exact ensures_bind (ih fun c hc => h c (List.mem_cons_of_mem a hc)) fun bs => ensures_pure _

end Ensures

/-- From a state with the invariant, the computation keeps it, and has only results with the
property. -/
def Delivers (I : σ → Prop) (P : α → Prop) (x : ExceptT ε (StateM σ) α) : Prop :=
  ∀ s, I s → I (x s).2 ∧ Yields P (x s).1

section Delivers

variable {I : σ → Prop} {P : α → Prop} {Q : β → Prop} {x : ExceptT ε (StateM σ) α}

lemma delivers_pure {a : α} (h : P a) : Delivers I P (pure a : ExceptT ε (StateM σ) α) :=
  fun _ hs => ⟨hs, yields_ok h⟩

lemma delivers_bind {f : α → ExceptT ε (StateM σ) β} (hx : Delivers I P x)
    (hf : ∀ a, P a → Delivers I Q (f a)) : Delivers I Q (x >>= f) := by
  intro s hs
  obtain ⟨hI, hyields⟩ := hx s hs
  rw [bind_apply]
  rcases hxs : x s with ⟨e | a, s'⟩
  · rw [hxs] at hI
    exact ⟨hI, yields_error e⟩
  · rw [hxs] at hI hyields
    exact hf a (hyields a rfl) s' hI

lemma delivers_mapM {f : α → ExceptT ε (StateM σ) β} {l : List α}
    (h : ∀ a ∈ l, Delivers I Q (f a)) : Delivers I (fun bs => ∀ b ∈ bs, Q b) (l.mapM f) := by
  induction l with
  | nil => exact delivers_pure (by simp)
  | cons a l ih =>
    rw [List.mapM_cons]
    refine delivers_bind (h a List.mem_cons_self) fun b hb => ?_
    refine delivers_bind (ih fun c hc => h c (List.mem_cons_of_mem a hc)) fun bs hbs => ?_
    exact delivers_pure (List.forall_mem_cons.mpr ⟨hb, hbs⟩)

end Delivers

/-- In whatever state, the computation raises only errors of the given sort. -/
def Raises (P : ε → Prop) (x : ExceptT ε (StateM σ) α) : Prop := ∀ s, Errors P (x s).1

section Raises

variable {P : ε → Prop} {x : ExceptT ε (StateM σ) α}

lemma raises_iff_ensures : Raises P x ↔ Ensures (fun _ => True) P x := by
  constructor
  · intro h s _
    exact ⟨trivial, h s⟩
  · intro h s
    exact (h s trivial).2

lemma raises_pure (a : α) : Raises P (pure a : ExceptT ε (StateM σ) α) := fun _ => errors_ok a

lemma raises_modify (f : σ → σ) : Raises P (modify f : ExceptT ε (StateM σ) PUnit) :=
  fun _ => errors_ok _

lemma raises_bind {f : α → ExceptT ε (StateM σ) β} (hx : Raises P x) (hf : ∀ a, Raises P (f a)) :
    Raises P (x >>= f) :=
  raises_iff_ensures.mpr
    (ensures_bind (raises_iff_ensures.mp hx) fun a => raises_iff_ensures.mp (hf a))

/-- A computation that can raise no error at all yields a result. -/
lemma exists_ok (h : Raises (fun _ => False) x) (s : σ) : ∃ a s', x s = (.ok a, s') := by
  cases hx : x s with
  | mk r s' =>
    cases r with
    | ok a => exact ⟨a, s', rfl⟩
    | error e => exact (h s e (by rw [hx])).elim

end Raises

/-- From a state with the first property, a result and the state after it have the second one. -/
def Establishes (P : σ → Prop) (x : ExceptT ε (StateM σ) α) (Q : α → σ → Prop) : Prop :=
  ∀ s a s', P s → x s = (.ok a, s') → Q a s'

section Establishes

variable {P P' : σ → Prop} {x : ExceptT ε (StateM σ) α} {Q Q' : α → σ → Prop}

lemma establishes_pure {a : α} (h : ∀ s, P s → Q a s) :
    Establishes P (pure a : ExceptT ε (StateM σ) α) Q := by
  intro s a' s' hs hrun
  cases hrun
  exact h s hs

lemma establishes_bind {f : α → ExceptT ε (StateM σ) β} {R : β → σ → Prop}
    (hx : Establishes P x Q) (hf : ∀ a, Establishes (Q a) (f a) R) :
    Establishes P (x >>= f) R := by
  intro s b s' hs hrun
  obtain ⟨a, t, ha, hb⟩ := bind_eq_ok.mp hrun
  exact hf a t b s' (hx s a t hs ha) hb

lemma Establishes.of_imp (hx : Establishes P x Q) (hP : ∀ s, P' s → P s) : Establishes P' x Q :=
  fun s a s' hs hrun => hx s a s' (hP s hs) hrun

lemma Establishes.imp (hx : Establishes P x Q) (hQ : ∀ a s, Q a s → Q' a s) :
    Establishes P x Q' := fun s a s' hs hrun => hQ a s' (hx s a s' hs hrun)

end Establishes

end PolicyDecision.Stateful
