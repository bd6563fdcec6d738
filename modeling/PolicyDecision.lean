import PolicyDecision.DecisionPoint
import PolicyDecision.Proofs.Stateful
import PolicyDecision.Proofs.Reach
import PolicyDecision.Proofs.Combining.Transcript
import PolicyDecision.Proofs.Node.Step
import PolicyDecision.Proofs.Validation.Safety
import PolicyDecision.Proofs.Expression.Basic
import PolicyDecision.Proofs.Validation.Soundness
import PolicyDecision.Proofs.Variable.Graph
import PolicyDecision.Proofs.Variable.Unfolding
import PolicyDecision.Proofs.Variable.Expansion
import PolicyDecision.Proofs.Variable.Transparency
import PolicyDecision.Proofs.Variable.Scope
import PolicyDecision.Proofs.Visit.Findings
import PolicyDecision.Proofs.Visit.Ledger
import PolicyDecision.Proofs.Visit.Exactness
import PolicyDecision.Proofs.Combining.Deferral
import PolicyDecision.Proofs.Visit.Grounds
import PolicyDecision.Proofs.Independence
import PolicyDecision.Proofs.Restoration
import PolicyDecision.Proofs.Reference.Transparency
import PolicyDecision.Proofs.Termination.Node
import PolicyDecision.Proofs.Duality.Evaluation
import PolicyDecision.Proofs.Attributes.Answers
import PolicyDecision.Proofs.Attributes.Paths
import PolicyDecision.Proofs.Attributes.Noninterference
import PolicyDecision.Proofs.Legacy.Combining
import PolicyDecision.Proofs.Legacy.Evaluation
import PolicyDecision.Proofs.Error
import PolicyDecision.Proofs.Explanation.Function
import PolicyDecision.Proofs.Explanation.Expression
import PolicyDecision.Proofs.Combining.Inheritance
import PolicyDecision.Proofs.Explanation.Node
import PolicyDecision.Proofs.Explanation.Result
import PolicyDecision.Proofs.Expression.Faults
import PolicyDecision.Proofs.Combining.Vocabulary
import PolicyDecision.Proofs.Visit.Vocabulary
import PolicyDecision.Proofs.Request.Splitting
import PolicyDecision.Proofs.Request.Isolation
import PolicyDecision.Proofs.Validation.Cycles
import PolicyDecision.Proofs.Visit.Course
import PolicyDecision.Proofs.Validation.Variables
import PolicyDecision.Proofs.Decimal.Digits
import PolicyDecision.Proofs.Lexical.Reader
import PolicyDecision.Proofs.Text.Split
import PolicyDecision.Proofs.Calendar.Valid
import PolicyDecision.Proofs.Calendar.RoundTrip
import PolicyDecision.Proofs.Calendar.Duration
import PolicyDecision.Proofs.Binary.RoundTrip
import PolicyDecision.Proofs.Name.RoundTrip
import PolicyDecision.Proofs.Function.Registry
import PolicyDecision.Proofs.Value.RoundTrip
import PolicyDecision.Proofs.Calendar.DayTimeDuration
import PolicyDecision.Proofs.Calendar.DayNumber
import PolicyDecision.Proofs.Calendar.DayCount
import PolicyDecision.Proofs.Calendar.Movement
import PolicyDecision.Proofs.Function.Types
import PolicyDecision.Proofs.Expression.Homogeneous
import PolicyDecision.Proofs.Order.Algorithm
import PolicyDecision.Proofs.Order.Steady
import PolicyDecision.Proofs.Order.Evaluation
import PolicyDecision.Proofs.Combining.Abstraction
import PolicyDecision.Proofs.Combining.Calls
import PolicyDecision.Proofs.Reference.Opened
import PolicyDecision.Proofs.Reference.Limit
import PolicyDecision.Proofs.Spelling.Canonical
import PolicyDecision.Proofs.Spelling.Answers
import PolicyDecision.Proofs.Spelling.Expression
import PolicyDecision.Proofs.Spelling.Node
import PolicyDecision.Proofs.Spelling.Tree
import PolicyDecision.Proofs.Spelling.Evaluation
import PolicyDecision.Proofs.FirstOccurrence
import PolicyDecision.Proofs.Request.Choices
import PolicyDecision.Proofs.Request.Combination
import PolicyDecision.Proofs.Validation.CyclicPath
import PolicyDecision.Proofs.Target.Verdict
import PolicyDecision.Proofs.Attributes.Shuffled
import PolicyDecision.Proofs.Target.Rearrangement
import PolicyDecision.Proofs.Calendar.DayOrder
import PolicyDecision.Proofs.Calendar.Months
import PolicyDecision.Proofs.Calendar.Instant
import PolicyDecision.Proofs.Target.Condition
import PolicyDecision.Proofs.Combinations
import PolicyDecision.Proofs.Function.Argument
import PolicyDecision.Proofs.Function.Collection
import PolicyDecision.Proofs.HigherOrder.Quantifier
import PolicyDecision.Proofs.HigherOrder.Cursor
import PolicyDecision.Proofs.HigherOrder.Combination
import PolicyDecision.Proofs.HigherOrder.Mapping
import PolicyDecision.Proofs.Bag.Membership
import PolicyDecision.Proofs.Bag.SetAlgebra
import PolicyDecision.Proofs.Policy.Newest
import PolicyDecision.Proofs.Combining.Precedence
import PolicyDecision.Proofs.Combining.Selection
import PolicyDecision.Proofs.Reference.Cycle
import PolicyDecision.Proofs.Lexical.Grammar
import PolicyDecision.Proofs.Policy.Pattern
import PolicyDecision.Proofs.Policy.Bounds
import PolicyDecision.Proofs.Calendar.DateGrammar
import PolicyDecision.Proofs.Calendar.DurationGrammar
import PolicyDecision.Proofs.Binary.Base64
import PolicyDecision.Proofs.Calendar.TimeRange
import PolicyDecision.Proofs.Function.Arithmetic
import PolicyDecision.Proofs.Decimal.Integer
import PolicyDecision.Proofs.Function.Connective
import PolicyDecision.Proofs.Text.Substring
import PolicyDecision.Proofs.Name.Matching
import PolicyDecision.Proofs.Request.Building
import PolicyDecision.Proofs.Value.Order
