import PolicyDecision.Response
import Mathlib.Tactic.Common

/-! Errors that say what has gone wrong. -/

namespace PolicyDecision

namespace EvaluationError

/-- Whether the error is one of the decision point's own that names a cause. What others report may
say anything. -/
def isExplicit : EvaluationError → Bool
  | reported _ _ | undecided => false
  | raisedBy _ e => e.isExplicit
  | _ => true

lemma status_ne_ok {e : EvaluationError} (h : e.isExplicit = true) : e.status ≠ .ok := by
  induction e with
  | raisedBy uri e ih => exact ih h
  | reported status text => cases h
  | _ => simp [status]

/-- A character of the message that the text of `undecided` does not have. -/
def mark : EvaluationError → Char
  | raisedBy _ _ => ':'
  | negativeCount _ | countTooLarge _ _ => '-'
  | substringRange _ _ _ | attributeMissing _ _ _ => '('
  | noPathSupport _ => 'X'
  | argument _ _ _ | notOneValue _ _ => 'g'
  | missingArgument _ => 'm'
  | lexical _ | argumentCount _ _ | tooFewArguments _ _ | functionAmongArguments | invalidPattern _
    | patternTooLarge _ _ | pathNotString _ => 'p'
  | divisionByZero | undefinedVariable _ | circularVariable _ | notCombinable => 'v'
  | referenceCycle _ | referenceNotFound _ | referenceTooDeep _ _ => 'f'
  | unknownBlock _ => 'q'
  | _ => 't'

lemma mark_mem_message {e : EvaluationError} (h : e.isExplicit = true) :
    e.mark ∈ e.message.toList := by
  unfold message mark
  cases e with
  | reported status text => cases h
  | undecided => cases h
  | lexical e =>
    unfold Lexical.Error.message
    rw [String.toList_append, String.toList_ofList]
    simp
  | _ =>
    simp only [String.toList_append, List.mem_append]
    -- A literal is read off as the list that it is made of, which is faster than to decode it.
    repeat rw [String.toList_ofList]
    simp

/-- A message that names a cause is not the generic one. -/
theorem message_ne_undecided {e : EvaluationError} (h : e.isExplicit = true) :
    e.message ≠ undecided.message := by
  have hmark : e.mark ∉ undecided.message.toList := by
    cases e <;> simp only [mark] <;> decide
  intro heq
  exact hmark (heq ▸ mark_mem_message h)

end EvaluationError

end PolicyDecision
