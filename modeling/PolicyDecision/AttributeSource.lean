import PolicyDecision.Decision
import PolicyDecision.Error

/-! Where attribute values come from. -/

namespace PolicyDecision

/-- A prefix and the namespace that it stands for. -/
structure Namespace where
  label : String
  uri : String
  deriving Repr, DecidableEq

/-- What is asked when an attribute is looked up by its name. -/
structure AttributeQuery where
  category : String
  attributeId : String
  dataType : String
  issuer : Option String := none
  deriving Repr, DecidableEq

/-- What is asked when values are selected by a path into the content. -/
structure PathQuery where
  version : Version
  path : String
  category : String
  contextSelector : Option String := none
  namespaces : List Namespace := []
  deriving Repr, DecidableEq

/-- Both questions are answered with lexical forms, which are not read yet. -/
structure AttributeSource where
  values : AttributeQuery → Except EvaluationError (List String)
  select : PathQuery → Except EvaluationError (List String) :=
    fun query => .error (.noPathSupport query.path)

end PolicyDecision
