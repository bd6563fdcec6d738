import PolicyDecision.Proofs.Attributes.Paths
import PolicyDecision.Proofs.Spelling.Canonical
import PolicyDecision.Proofs.Stateful

/-! Questions in canonical form, and the targets that are made of them, have the answers that they
had before. Only the error about a missing attribute repeats how the type is spelled. -/

namespace PolicyDecision.Stateful

/-! Computations whose outcomes and states are those of others, rewritten. -/

variable {ε σ α β α' β' : Type}

/-- An outcome with its error or its value rewritten. -/
def rewritten (error : ε → ε) (value : α → β) : Except ε α → Except ε β
  | .ok a => .ok (value a)
  | .error e => .error (error e)

lemma rewritten_bind {error : ε → ε} {value : α → β} {value' : α' → β'} {x : Except ε α}
    {k : α → Except ε α'} {k' : β → Except ε β'}
    (hk : ∀ a, k' (value a) = rewritten error value' (k a)) :
    rewritten error value x >>= k' = rewritten error value' (x >>= k) := by
  cases x with
  | error e => rfl
  | ok a => exact hk a

lemma rewritten_map (error : ε → ε) (value : β → β') (f : α → β) (x : Except ε α) :
    rewritten error value (x.map f) = rewritten error (value ∘ f) x := by
  cases x <;> rfl

/-- How errors and states are rewritten. -/
structure Rewriting (ε σ : Type) where
  error : ε → ε
  state : σ → σ

variable {R : Rewriting ε σ} {value : α → β} {value' : α' → β'}

/-- From a rewritten state, the second computation comes to the rewritten outcome and the rewritten
state of the first. -/
def Rewriting.Carries (R : Rewriting ε σ) (value : α → β) (x : ExceptT ε (StateM σ) α)
    (y : ExceptT ε (StateM σ) β) : Prop :=
  ∀ s, y (R.state s) = (rewritten R.error value (x s).1, R.state (x s).2)

lemma carries_of_stateless {x : ExceptT ε (StateM σ) α} {y : ExceptT ε (StateM σ) β}
    {r : Except ε α} (hx : ∀ s, x s = (r, s)) (hy : ∀ s, y s = (rewritten R.error value r, s)) :
    R.Carries value x y := by
  intro s
  rw [hx, hy]

lemma carries_pure (a : α) : R.Carries value (pure a) (pure (value a)) := fun _ => rfl

lemma carries_bind {x : ExceptT ε (StateM σ) α} {y : ExceptT ε (StateM σ) β}
    {k : α → ExceptT ε (StateM σ) α'} {k' : β → ExceptT ε (StateM σ) β'}
    (hx : R.Carries value x y) (hk : ∀ a, R.Carries value' (k a) (k' (value a))) :
    R.Carries value' (x >>= k) (y >>= k') := by
  intro s
  rw [bind_apply, bind_apply, hx]
  rcases x s with ⟨e | a, t⟩
  · rfl
  · exact hk a t

lemma carries_get : R.Carries R.state (get : ExceptT ε (StateM σ) σ) get := fun _ => rfl

lemma carries_modify {f g : σ → σ} (h : ∀ s, g (R.state s) = R.state (f s)) :
    R.Carries id (modify f : ExceptT ε (StateM σ) PUnit) (modify g) := by
  intro s
  rw [modify_apply, modify_apply, h]
  rfl

/-- A computation that is run in a state of its own, after which the state from before comes back in
part. -/
lemma carries_scoped {x : ExceptT ε (StateM σ) α} {y : ExceptT ε (StateM σ) β} (enter : σ → σ)
    (leave : σ → σ → σ) (h : R.Carries value x y)
    (henter : ∀ s, enter (R.state s) = R.state (enter s))
    (hleave : ∀ s t, leave (R.state s) (R.state t) = R.state (leave s t)) :
    R.Carries value (fun s => ((x (enter s)).1, leave s (x (enter s)).2))
      (fun s => ((y (enter s)).1, leave s (y (enter s)).2)) := by
  intro s
  simp only [henter, h (enter s), hleave]

lemma carries_mapM {γ δ : Type} {f : γ → ExceptT ε (StateM σ) α} {g : δ → ExceptT ε (StateM σ) β}
    {rewrite : γ → δ} {l : List γ} (h : ∀ c ∈ l, R.Carries value (f c) (g (rewrite c))) :
    R.Carries (List.map value) (l.mapM f) ((l.map rewrite).mapM g) := by
  induction l with
  | nil => exact fun _ => rfl
  | cons c l ih =>
    obtain ⟨hc, hl⟩ := List.forall_mem_cons.mp h
    rw [List.map_cons, List.mapM_cons, List.mapM_cons]
    exact carries_bind hc fun a => carries_bind (ih hl) fun as => carries_pure (a :: as)

end PolicyDecision.Stateful

/-! Errors, questions and targets in canonical form. -/

namespace PolicyDecision

open Stateful

def EvaluationError.canonical : EvaluationError → EvaluationError
  | attributeMissing id dataType category =>
    .attributeMissing id (DataType.canonicalUri dataType) category
  | e => e

lemma EvaluationError.status_canonical (e : EvaluationError) : e.canonical.status = e.status := by
  cases e <;> rfl

def Fault.canonical : Fault → Fault
  | evaluation e => .evaluation e.canonical
  | configuration e => .configuration e

def MatchResult.canonical : MatchResult → MatchResult
  | indeterminate e => .indeterminate e.canonical
  | m => m

lemma Literal.resolve_canonical (l : Literal) :
    l.canonical.resolve = rewritten Fault.canonical id l.resolve := by
  unfold resolve
  rw [canonical, DataType.ofUri?_canonicalUri]
  cases h : DataType.ofUri? l.dataType with
  | none =>
    simp only [DataType.canonicalUri_of_none h]
    rfl
  | some type =>
    simp only
    cases Value.read type l.text <;> rfl

namespace Environment

/-- The second environment gives to canonical questions the answers that the first one gives, out of
policies and attributes in canonical form. Paths are supported by neither. -/
structure Spells (env env' : Environment) : Prop where
  version : env'.version = env.version
  functions : env'.functions = env.functions
  algorithms : env'.algorithms = env.algorithms
  repository : env'.repository = env.repository.canonical
  maxReferenceDepth : env'.maxReferenceDepth = env.maxReferenceDepth
  collectPolicies : env'.collectPolicies = env.collectPolicies
  clock : env'.clock = env.clock
  call : env'.call = env.call
  values : ∀ q, ∃ texts, env.source.values q = .ok texts ∧
    env'.source.values q.canonical = .ok texts
  pathless : env.source.Pathless
  pathless' : env'.source.Pathless

variable {env env' : Environment}

lemma requireType_canonical (uri : String) : requireType (DataType.canonicalUri uri) =
    rewritten Fault.canonical id (requireType uri) := by
  unfold requireType
  rw [DataType.ofUri?_canonicalUri]
  cases h : DataType.ofUri? uri with
  | none =>
    rw [DataType.canonicalUri_of_none h]
    rfl
  | some type => rfl

/-- What is wrong with a text has nothing to do with the spelling of its type. -/
lemma rewritten_readBag (type : DataType) (texts : List String) :
    rewritten Fault.canonical id ((readBag type texts).mapError .evaluation) =
      (readBag type texts).mapError .evaluation := by
  unfold readBag
  cases texts.mapM (Value.read type) <;> rfl

/-- What a designator yields when its own values have been read. -/
def supplied (env : Environment) (d : Designator) (type : DataType) (found : Bag) :
    Except Fault Bag :=
  let bag := if found.isEmpty then ⟨type, (env.clockValue? d type).toList⟩ else found
  if bag.isEmpty && d.mustBePresent then
    .error (.evaluation (.attributeMissing d.attributeId d.dataType d.category))
  else .ok bag

lemma designate_of_values_eq_ok {d : Designator} {texts : List String}
    (h : env.source.values d.query = .ok texts) : env.designate d = requireType d.dataType >>=
      fun type => (readBag type texts).mapError .evaluation >>= env.supplied d type := by
  unfold designate
  refine congrArg (requireType d.dataType >>= ·) (funext fun type => ?_)
  unfold Designator.query at h
  simp only [h]
  refine congrArg ((readBag type texts).mapError Fault.evaluation >>= ·) (funext fun found => ?_)
  unfold supplied
  split <;> rfl

namespace Spells

variable (h : env.Spells env')
include h

lemma supplied_eq (d : Designator) (type : DataType) (found : Bag) :
    env'.supplied d.canonical type found =
      rewritten Fault.canonical id (env.supplied d type found) := by
  have hclock : env'.clockValue? d.canonical type = env.clockValue? d type := by
    rw [clockValue?, clockValue?, h.clock]
    rfl
  unfold supplied
  rw [hclock]
  simp only [Designator.canonical, apply_ite (rewritten Fault.canonical id)]
  rfl

lemma designate_eq (d : Designator) :
    env'.designate d.canonical = rewritten Fault.canonical id (env.designate d) := by
  obtain ⟨texts, hvalues, hvalues'⟩ := h.values d.query
  rw [designate_of_values_eq_ok hvalues, designate_of_values_eq_ok (d := d.canonical) hvalues']
  have htype : requireType d.canonical.dataType =
      rewritten Fault.canonical id (requireType d.dataType) := requireType_canonical d.dataType
  rw [htype]
  refine rewritten_bind fun type => ?_
  conv_lhs => rw [id, ← rewritten_readBag]
  exact rewritten_bind fun found => h.supplied_eq d type found

lemma select_eq (s : Selector) :
    env'.select s.canonical = rewritten Fault.canonical id (env.select s) := by
  have htype : requireType s.canonical.dataType =
      rewritten Fault.canonical id (requireType s.dataType) := requireType_canonical s.dataType
  unfold select
  rw [htype]
  refine rewritten_bind fun type => ?_
  simp only [h.pathless _, h.pathless' _]
  rfl

lemma attributes_eq (a : AttributeRef) :
    env'.attributes a.canonical = rewritten Fault.canonical id (env.attributes a) := by
  cases a with
  | designator d => exact h.designate_eq d
  | selector s => exact h.select_eq s

section Target

/-- The errors of a comparison do not name types by their URIs. -/
lemma matchValues_eq (f : FunctionRef) (literal : Value) (error : Option EvaluationError)
    (values : List Value) : env'.matchValues f literal (error.map .canonical) values =
      (env.matchValues f literal error values).canonical := by
  induction values generalizing error with
  | nil => cases error <;> rfl
  | cons v vs ih =>
    rw [matchValues, matchValues, h.call]
    split
    · rfl
    · exact ih error
    · rename_i other _ _ _
      have hnext := ih (error.or (some (.matchNotBoolean f.uri other.kind)))
      rwa [Option.map_or] at hnext
    · rename_i e _
      have hnext := ih (error.or (some (.raisedBy f.uri e)))
      rwa [Option.map_or] at hnext

omit h in
lemma orIndeterminate_eq {α : Type} {x : Except Fault α}
    {next next' : α → Except ConfigurationError MatchResult}
    (hnext : ∀ a, next' a = (next a).map .canonical) :
    orIndeterminate (rewritten Fault.canonical id x) next' =
      (orIndeterminate x next).map .canonical := by
  rcases x with (e | c) | a
  · rfl
  · rfl
  · exact hnext a

lemma matchOne_eq (m : Match) : env'.matchOne m.canonical = (env.matchOne m).map .canonical := by
  unfold matchOne
  rw [h.functions, show m.canonical.function = m.function from rfl]
  cases env.functions.require m.function with
  | error c => rfl
  | ok f =>
    change orIndeterminate m.literal.canonical.resolve _ =
      (orIndeterminate m.literal.resolve _).map .canonical
    rw [Literal.resolve_canonical]
    refine orIndeterminate_eq fun literal => ?_
    change orIndeterminate (env'.attributes m.attributes.canonical) _ = _
    rw [h.attributes_eq]
    exact orIndeterminate_eq fun bag =>
      congrArg Except.ok (h.matchValues_eq f literal none bag.values)

lemma matchAll_eq (error : Option EvaluationError) (ms : List Match) :
    env'.matchAll (error.map .canonical) (ms.map .canonical) =
      (env.matchAll error ms).map .canonical := by
  induction ms generalizing error with
  | nil => cases error <;> rfl
  | cons m ms ih =>
    rw [List.map_cons, matchAll, matchAll, h.matchOne_eq]
    rcases env.matchOne m with c | _ | _ | e
    · rfl
    · exact ih error
    · rfl
    · have hnext := ih (error.or (some e))
      rwa [Option.map_or] at hnext

lemma matchAlternatives_eq (error : Option EvaluationError) (as : List AllOf) :
    env'.matchAlternatives (error.map .canonical) (as.map .canonical) =
      (env.matchAlternatives error as).map .canonical := by
  induction as generalizing error with
  | nil => cases error <;> rfl
  | cons a as ih =>
    have ha : env'.matchAll none a.canonical.matchList =
        (env.matchAll none a.matchList).map .canonical := h.matchAll_eq none a.matchList
    rw [List.map_cons, matchAlternatives, matchAlternatives, ha]
    rcases env.matchAll none a.matchList with c | _ | _ | e
    · rfl
    · rfl
    · exact ih error
    · have hnext := ih (error.or (some e))
      rwa [Option.map_or] at hnext

lemma matchAnyOf_eq (a : AnyOf) :
    env'.matchAnyOf a.canonical = (env.matchAnyOf a).map .canonical := by
  have halternatives : env'.matchAlternatives none a.canonical.alternatives =
      (env.matchAlternatives none a.alternatives).map .canonical :=
    h.matchAlternatives_eq none a.alternatives
  have hempty : a.canonical.alternatives.isEmpty = a.alternatives.isEmpty := List.isEmpty_map
  unfold matchAnyOf
  rw [hempty, halternatives]
  split <;> rfl

lemma matchAnyOfs_eq (result : MatchResult) (as : List AnyOf) :
    env'.matchAnyOfs result.canonical (as.map .canonical) =
      (env.matchAnyOfs result as).map .canonical := by
  induction as generalizing result with
  | nil => rfl
  | cons a as ih =>
    rw [List.map_cons, matchAnyOfs, matchAnyOfs, h.matchAnyOf_eq]
    rcases env.matchAnyOf a with c | _ | _ | e
    · rfl
    · exact ih result
    · exact ih .noMatch
    · rfl

/-- Targets are compared as before. -/
theorem matchTarget_eq (target : Option Target) :
    env'.matchTarget (target.map .canonical) = (env.matchTarget target).map .canonical := by
  cases target with
  | none => rfl
  | some t => exact h.matchAnyOfs_eq .isMatch t.anyOfs

end Target

end Spells

end Environment

end PolicyDecision
