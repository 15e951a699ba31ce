import DocView.Json.Printer

/-! The clauses of a query: what it asks of one field each. -/

namespace DocView

/-- Which end of a range a clause sets. -/
inductive Bound where
  /-- The field is at least the value. -/
  | lower
  /-- The field is at most the value. -/
  | upper
deriving DecidableEq

/-- The sign of a bound. -/
def Bound.sign : Bound → String
  | lower => ">="
  | upper => "<="

/-- The direction in which rows are read. -/
inductive Direction where
  /-- From the least key to the greatest. -/
  | ascending
  /-- From the greatest key to the least. -/
  | descending
deriving DecidableEq

/-- The word for a direction. -/
def Direction.word : Direction → String
  | ascending => "up"
  | descending => "down"

/-- One condition of a query. -/
inductive Clause where
  /-- The field equals the value. -/
  | equality (field : String) (value : Json)
  /-- The field lies on one side of the value. -/
  | range (field : String) (bound : Bound) (value : Json)
  /-- The rows are read in the order of the field. -/
  | order (field : String) (direction : Direction)
deriving DecidableEq

/-- The field a clause is about. -/
def Clause.field : Clause → String
  | equality field _ => field
  | range field _ _ => field
  | order field _ => field

/-- Whether a clause sets an end of a range. -/
def Clause.isRange : Clause → Bool
  | range .. => true
  | _ => false

/-- The text of a clause as plans and messages show it. -/
def Clause.text : Clause → String
  | equality field value => s!"{field} == {value.text}"
  | range field bound value => s!"{field} {bound.sign} {value.text}"
  | order field direction => s!"order {direction.word} {field}"

end DocView
