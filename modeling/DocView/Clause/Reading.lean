import DocView.Rejection

/-!
Clauses read from text. A condition is a field and an operator with the last space between them, and
an order is a field behind an optional sign; neither may span several lines.
-/

namespace DocView

/-- The characters before and behind the last occurrence of a character. -/
def splitLast? (separator : Char) : List Char → Option (List Char × List Char)
  | [] => none
  | char :: rest =>
    -- A later occurrence wins over one here.
    match splitLast? separator rest with
    | some (before, behind) => some (char :: before, behind)
    | none => if char = separator then some ([], rest) else none

namespace Clause

/-- The clause of a field, an operator and a value. -/
def ofOperator? (field operator : String) (value : Json) : Except Rejection Clause :=
  match operator with
  | "==" => .ok (.equality field value)
  | "=" => .ok (.equality field value)
  | ">=" => .ok (.range field .lower value)
  | "<=" => .ok (.range field .upper value)
  | _ => .error (.unknownOperator operator)

/-- Reads a condition such as `age >=` on a value. -/
def ofCondition? (condition : String) (value : Json) : Except Rejection Clause :=
  let chars := condition.toList
  if '\n' ∈ chars then .error (.malformed condition .unsplit)
  else
    match splitLast? ' ' chars with
    | none => .error (.malformed condition .unsplit)
    | some (field, operator) =>
      if field = [] then .error (.malformed condition .missingField)
      else if operator = [] then .error (.malformed condition .missingOperator)
      else ofOperator? (String.ofList field) (String.ofList operator) value

/-- The direction that a sign asks for, and the field behind it. -/
def splitSign : List Char → Direction × List Char
  | '-' :: field => (.descending, field)
  | '+' :: field => (.ascending, field)
  -- Only one sign is taken; what follows it belongs to the field.
  | field => (.ascending, field)

/-- Reads an order such as `-age`. -/
def ofInstruction? (instruction : String) : Except Rejection Clause :=
  let chars := instruction.toList
  if '\n' ∈ chars then .error (.malformed instruction .unreadableOrder)
  else
    let (direction, field) := splitSign chars
    if field = [] then .error (.malformed instruction .missingOrderField)
    else .ok (.order (String.ofList field) direction)

end Clause

end DocView
