import PolicyDecision.Proofs.Attributes.Answers
import PolicyDecision.Request.Basic

/-! Without support for paths a request is seen only through the attributes that are asked for by
name. The standard functions then see nothing but their arguments. -/

namespace PolicyDecision

/-- A source that refuses every path. -/
def AttributeSource.Pathless (s : AttributeSource) : Prop :=
  ∀ query, s.select query = .error (.noPathSupport query.path)

lemma Request.pathless_source (r : Request) : (r.source none).Pathless := fun _ => rfl

section Functions

variable {context context' : FunctionContext} (h : context.source.Pathless)
  (h' : context'.source.Pathless)
include h h'

/-- Neither the version nor the content is looked at before the path is refused. -/
lemma StandardFunction.callNodeCount_of_pathless :
    callNodeCount context' = callNodeCount context := by
  funext args
  simp only [callNodeCount, h _, h' _]

lemma StandardFunction.call_of_pathless (invoke : Invoke) (f : StandardFunction) :
    f.call invoke context' = f.call invoke context := by
  cases f with
  | nodeCount => exact callNodeCount_of_pathless h h'
  | _ => rfl

lemma Callee.callWithin_of_pathless (depth : ℕ) (c : Callee) :
    c.callWithin [] context' depth = c.callWithin [] context depth := by
  induction depth generalizing c with
  | zero =>
    cases c with
    | standard f => exact f.call_of_pathless h h' _
    | registered number => rfl
  | succ depth ih =>
    cases c with
    | standard f =>
      simp only [callWithin, ih]
      exact f.call_of_pathless h h' _
    | registered number => rfl

theorem FunctionRegistry.call_of_pathless : standard.call context' = standard.call context := by
  funext f
  exact f.callee.callWithin_of_pathless h h' 1

end Functions

namespace Environment

variable {env env' : Environment}

lemma select_of_pathless (h : env.source.Pathless) (h' : env'.source.Pathless) :
    env'.select = env.select := by
  funext s
  simp only [select, h _, h' _]

lemma clockValue?_of_clock (hclock : env'.clock = env.clock) (d : Designator) :
    env'.clockValue? d = env.clockValue? d := by
  funext type
  rw [clockValue?, clockValue?, hclock]

lemma designate_of_values {d : Designator} (hclock : env'.clock = env.clock)
    (hvalues : env'.source.values d.query = env.source.values d.query) :
    env'.designate d = env.designate d := by
  unfold Designator.query at hvalues
  simp only [designate, hvalues, clockValue?_of_clock hclock]

/-- The version, too, makes no difference to an answer. -/
theorem answersAlike_of_pathless {named : Designator → Prop} (hstandard : env.functions = .standard)
    (hfunctions : env'.functions = env.functions) (h : env.source.Pathless)
    (h' : env'.source.Pathless) (hclock : env'.clock = env.clock)
    (hvalues : ∀ d, named d → env'.source.values d.query = env.source.values d.query) :
    AnswersAlike named env env' where
  functions := hfunctions
  call := by
    have hcall : FunctionRegistry.standard.call env'.functionContext =
        FunctionRegistry.standard.call env.functionContext :=
      FunctionRegistry.call_of_pathless h h'
    funext f args
    rw [call, call, hfunctions, hstandard, hcall]
  designate d hd := designate_of_values hclock (hvalues d hd)
  select := select_of_pathless h h'

end Environment

end PolicyDecision
