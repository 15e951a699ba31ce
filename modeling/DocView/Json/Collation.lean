import DocView.Json

/-!
The order of view keys: null, then truth values, numbers, texts, lists and objects. Numbers are
compared as binary64 numbers and texts by code point.
-/

namespace DocView.Json

/-- The place of a value's kind in key order. -/
def rank : Json → Nat
  | null => 0
  | bool _ => 1
  | number _ => 2
  | string _ => 3
  | array _ => 4
  | object _ => 5

/-- The place of a number in ascending order, once rounded to a binary64 number. -/
def Number.ordinal : Number → Int
  | .integer value _ => Double.ordinalOfInt value
  | .float value => value.ordinal

mutual

/-- Compares two view keys. -/
def collate : Json → Json → Ordering
  | bool left, bool right => compare left right
  | number left, number right => compare left.ordinal right.ordinal
  | string left, string right => Ord.compare left right
  | array left, array right => collateItems left right
  | object left, object right => collateMembers left right
  -- Two nulls are equal, and values of different kinds compare by kind alone.
  | left, right => compare left.rank right.rank
termination_by structural left => left

/-- Lists are compared item by item, and then the shorter one comes first. -/
def collateItems : List Json → List Json → Ordering
  | [], [] => .eq
  | [], _ :: _ => .lt
  | _ :: _, [] => .gt
  | item :: items, other :: others => (collate item other).then (collateItems items others)
termination_by structural left => left

/-- Objects are compared member by member, key before value, and then the smaller one comes first. -/
def collateMembers {low lowOther : Option String} :
    Entries Json low → Entries Json lowOther → Ordering
  | .nil, .nil => .eq
  | .nil, .cons .. => .lt
  | .cons .., .nil => .gt
  | .cons key _ value rest, .cons otherKey _ otherValue otherRest =>
    ((Ord.compare key otherKey).then (collate value otherValue)).then
      (collateMembers rest otherRest)
termination_by structural left => left

end

/-- Values in key order; equal values keep their order. -/
def sort (values : List Json) : List Json :=
  values.mergeSort fun left right => left.collate right != .gt

end DocView.Json
