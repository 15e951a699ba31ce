import DocView.Clause
import DocView.Text.Quoted

/-! Why a query is rejected before anything is sent. -/

namespace DocView

/-- What the clauses so far have fixed of the key. -/
inductive KeyStage where
  /-- Equalities only. -/
  | equal
  /-- An order. -/
  | ordered
  /-- A range from a lower bound. -/
  | greater
  /-- A range up to an upper bound. -/
  | less
deriving DecidableEq

/-- The word for a stage. -/
def KeyStage.word : KeyStage → String
  | equal => "equal"
  | ordered => "order"
  | greater => "greater"
  | less => "less"

/-- What is wrong with the text of a condition or an order. -/
inductive Malformation where
  /-- A condition without a space, or of several lines. -/
  | unsplit
  /-- A condition with nothing before its last space. -/
  | missingField
  /-- A condition with nothing behind its last space. -/
  | missingOperator
  /-- An order of several lines. -/
  | unreadableOrder
  /-- An order with nothing behind its sign. -/
  | missingOrderField
deriving DecidableEq

/-- The wording of what is wrong with a text. -/
def Malformation.reason : Malformation → String
  | unsplit => "expected \"<field> <operator>\""
  | missingField => "missing field name"
  | missingOperator => "missing operator"
  | unreadableOrder => "unreadable order instruction"
  | missingOrderField => "missing order field"

/-- Why a query is rejected. -/
inductive Rejection where
  /-- The text of a condition or an order cannot be read. -/
  | malformed (text : String) (malformation : Malformation)
  /-- The clause may not follow the clauses before it. -/
  | outOfOrder (clause : Clause) (stage : KeyStage)
  /-- The condition has an unknown operator. -/
  | unknownOperator (operator : String)
  /-- The query names no document type. -/
  | missingType
deriving DecidableEq

namespace Rejection

/-- The stable code of a rejection. -/
def code : Rejection → String
  | malformed .. => "VIEW_QUERY_INVALID_SYNTAX"
  | outOfOrder .. => "VIEW_QUERY_CLAUSE_ORDER"
  | unknownOperator .. => "VIEW_QUERY_UNKNOWN_OPERATOR"
  | missingType => "VIEW_QUERY_TYPE_REQUIRED"

/-- The wording of a rejection. -/
def reason : Rejection → String
  | malformed text malformation =>
    s!"Unknown condition {quote text}: {malformation.reason}"
  | outOfOrder clause stage =>
    s!"Filter '{clause.text}' not allowed after previous {stage.word} filter"
  | unknownOperator operator => s!"Unknown filter operation: {quote operator}"
  | missingType => "Document type required"

/-- The clause or text that was rejected, if it is a part of the query. -/
def offender? : Rejection → Option String
  | malformed text _ => some text
  | outOfOrder clause _ => some clause.text
  | unknownOperator operator => some operator
  | missingType => none

/-- The whole message: severity, code and reason. -/
def message (rejection : Rejection) : String :=
  s!"[REJECT] {rejection.code}: {rejection.reason}"

end Rejection

end DocView
