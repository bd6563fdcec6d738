import PolicyDecision.Proofs.Explanation.Function
import PolicyDecision.Proofs.Expression.Faults

/-! The errors of targets, of expressions and of obligations are explicit. -/

namespace PolicyDecision

open Stateful

/-- An error of the evaluation that is explicit, or one of the configuration. -/
def Fault.IsExplicit : Fault → Prop
  | evaluation e => e.isExplicit = true
  | configuration _ => True

/-- An indeterminate match says why it is so. -/
def MatchResult.Explicit (m : MatchResult) : Prop :=
  ∀ e, m = .indeterminate e → e.isExplicit = true

namespace Environment

/-- The functions are the standard ones, and only the request is asked for attributes. -/
structure Unaided (env : Environment) : Prop where
  functions : env.functions = .standard
  source : ∃ r : Request, env.source = r.source none

variable {env : Environment} (henv : env.Unaided)

lemma Unaided.pathless (henv : env.Unaided) : env.source.Pathless := by
  obtain ⟨r, hr⟩ := henv.source
  rw [hr]
  exact r.pathless_source

section Values

lemma explicit_requireType (uri : String) : Errors Fault.IsExplicit (requireType uri) := by
  unfold requireType
  split
  · exact errors_ok _
  · exact errors_error trivial

lemma explicit_resolve (l : Literal) : Errors Fault.IsExplicit l.resolve :=
  Literal.errors_resolve (fun _ he => he) (explicit_requireType _)

include henv

lemma explicit_designate (d : Designator) : Errors Fault.IsExplicit (env.designate d) := by
  refine errors_designate (fun _ he => he) (explicit_requireType _) fun query => ?_
  obtain ⟨r, hr⟩ := henv.source
  rw [hr]
  exact errors_ok _

lemma explicit_select (s : Selector) : Errors Fault.IsExplicit (env.select s) := by
  refine errors_select (fun _ he => he) (explicit_requireType _) fun query => ?_
  rw [henv.pathless query]
  exact errors_error rfl

lemma explicit_attributes (a : AttributeRef) : Errors Fault.IsExplicit (env.attributes a) := by
  cases a with
  | designator d => exact explicit_designate henv d
  | selector s => exact explicit_select henv s

lemma explicit_call (f : FunctionRef) (args : Arguments) : Explicit (env.call f args) := by
  rw [call, henv.functions]
  exact FunctionRegistry.explicit_call henv.pathless f args

end Values

section Targets

lemma explicit_or {error : Option EvaluationError} {e : EvaluationError}
    (herror : ∀ e, error = some e → e.isExplicit = true) (he : e.isExplicit = true) :
    ∀ e', error.or (some e) = some e' → e'.isExplicit = true := by
  intro e' h
  cases error with
  | none => exact Option.some.inj h ▸ he
  | some e₁ => exact herror e' h

/-- An error that has been kept makes the outcome indeterminate in the end. -/
lemma explicit_kept {error : Option EvaluationError}
    (herror : ∀ e, error = some e → e.isExplicit = true) {m : MatchResult}
    (hm : m.Explicit) : ((error.map .indeterminate).getD m).Explicit := by
  cases error with
  | none => exact hm
  | some e =>
    intro e' h
    cases h
    exact herror e rfl

lemma explicit_isMatch : MatchResult.isMatch.Explicit := by
  intro e h
  cases h

lemma explicit_noMatch : MatchResult.noMatch.Explicit := by
  intro e h
  cases h

lemma explicit_orIndeterminate {α : Type} {x : Except Fault α} (hx : Errors Fault.IsExplicit x)
    {next : α → Except ConfigurationError MatchResult}
    (hnext : ∀ a m, next a = .ok m → m.Explicit) {m : MatchResult}
    (h : orIndeterminate x next = .ok m) : m.Explicit := by
  rcases x with (e | c) | a
  · cases h
    intro e' he'
    cases he'
    exact hx _ rfl
  · cases h
  · exact hnext a m h

include henv

lemma explicit_matchValues (f : FunctionRef) (literal : Value) {error : Option EvaluationError}
    (herror : ∀ e, error = some e → e.isExplicit = true) (values : List Value) :
    (env.matchValues f literal error values).Explicit := by
  induction values generalizing error with
  | nil => exact explicit_kept herror explicit_noMatch
  | cons v vs ih =>
    have hcall := explicit_call henv f [.value literal, .value v]
    unfold matchValues
    split
    · exact explicit_isMatch
    · exact ih herror
    · exact ih (explicit_or herror rfl)
    · rename_i e he
      exact ih (explicit_or herror (hcall e he))

lemma explicit_matchOne {m : Match} {result : MatchResult} (h : env.matchOne m = .ok result) :
    result.Explicit := by
  obtain ⟨f, -, h⟩ := except_bind_eq_ok.mp h
  refine explicit_orIndeterminate (explicit_resolve m.literal) (fun literal result h => ?_) h
  refine explicit_orIndeterminate (explicit_attributes henv m.attributes)
    (fun bag result h => ?_) h
  cases h
  exact explicit_matchValues henv f literal (by simp) bag.values

lemma explicit_matchAll {error : Option EvaluationError}
    (herror : ∀ e, error = some e → e.isExplicit = true) {ms : List Match} {result : MatchResult}
    (h : env.matchAll error ms = .ok result) : result.Explicit := by
  induction ms generalizing error with
  | nil =>
    cases h
    exact explicit_kept herror explicit_isMatch
  | cons m ms ih =>
    rw [matchAll] at h
    obtain ⟨r, hm, h⟩ := except_bind_eq_ok.mp h
    cases r with
    | isMatch => exact ih herror h
    | noMatch =>
      cases h
      exact explicit_noMatch
    | indeterminate e => exact ih (explicit_or herror (explicit_matchOne henv hm e rfl)) h

lemma explicit_matchAlternatives {error : Option EvaluationError}
    (herror : ∀ e, error = some e → e.isExplicit = true) {as : List AllOf} {result : MatchResult}
    (h : env.matchAlternatives error as = .ok result) : result.Explicit := by
  induction as generalizing error with
  | nil =>
    cases h
    exact explicit_kept herror explicit_noMatch
  | cons a as ih =>
    rw [matchAlternatives] at h
    obtain ⟨r, ha, h⟩ := except_bind_eq_ok.mp h
    cases r with
    | isMatch =>
      cases h
      exact explicit_isMatch
    | noMatch => exact ih herror h
    | indeterminate e =>
      exact ih (explicit_or herror (explicit_matchAll henv (by simp) ha e rfl)) h

lemma explicit_matchAnyOf {a : AnyOf} {result : MatchResult} (h : env.matchAnyOf a = .ok result) :
    result.Explicit := by
  unfold matchAnyOf at h
  split at h
  · cases h
    exact explicit_isMatch
  · exact explicit_matchAlternatives henv (by simp) h

lemma explicit_matchAnyOfs {start : MatchResult} (hstart : start.Explicit) {as : List AnyOf}
    {result : MatchResult} (h : env.matchAnyOfs start as = .ok result) : result.Explicit := by
  induction as generalizing start with
  | nil =>
    cases h
    exact hstart
  | cons a as ih =>
    rw [matchAnyOfs] at h
    obtain ⟨r, ha, h⟩ := except_bind_eq_ok.mp h
    cases r with
    | isMatch => exact ih hstart h
    | noMatch => exact ih explicit_noMatch h
    | indeterminate e =>
      cases h
      exact explicit_matchAnyOf henv ha

theorem explicit_matchTarget {target : Option Target} {result : MatchResult}
    (h : env.matchTarget target = .ok result) : result.Explicit := by
  cases target with
  | none =>
    cases h
    exact explicit_isMatch
  | some t => exact explicit_matchAnyOfs henv explicit_isMatch h

end Targets

end Environment

section Expressions

/-- If only explicit errors are known before the evaluation then only such errors are known after it,
and only such an error ends it. -/
abbrev Evaluation.Explains {α : Type} (x : Evaluation α) : Prop :=
  Ensures (VariableStates.OnlyFaults Fault.IsExplicit) Fault.IsExplicit x

namespace Environment

variable {env : Environment} (henv : env.Unaided) (definitions : List VariableDefinition)
include henv

lemma partsRaise_explicit (e : Expression) : e.PartsRaise env Fault.IsExplicit := by
  have hfunction : ∀ uri,
      Errors Fault.IsExplicit ((env.functions.require uri).mapError .configuration) := by
    intro uri
    cases env.functions.require uri with
    | ok f => exact errors_ok f
    | error c => exact errors_error trivial
  induction e using Expression.induction with
  | literal l => exact .literal (explicit_resolve l)
  | designator d => exact .designator (explicit_designate henv d)
  | selector s => exact .selector (explicit_select henv s)
  | variableRef id => exact .variableRef
  | function uri => exact .function (hfunction uri)
  | apply uri args ih =>
    refine .apply (hfunction uri) (fun f vs => ?_) ih
    exact errors_mapError_of (fun _ he => he)
      (errors_mapError_of (fun _ he => he) (explicit_call henv f vs))

lemma explains_evaluate (e : Expression) : (env.evaluate definitions e).Explains :=
  ensures_evaluate (fun _ he => he) (fun d _ => partsRaise_explicit henv d.expression)
    (partsRaise_explicit henv e)

lemma explains_condition (e : Expression) : (env.evaluateCondition definitions e).Explains :=
  ensures_condition (fun _ he => he) (explains_evaluate henv definitions e)

theorem explains_duties (effect : Effect) (obligations advice : List ObligationExpression) :
    (env.evaluateDuties definitions effect obligations advice).Explains :=
  ensures_duties (fun _ he => he) effect
    (fun _ _ a _ => explains_evaluate henv definitions a.expression)
    fun _ _ a _ => explains_evaluate henv definitions a.expression

end Environment

end Expressions

end PolicyDecision
