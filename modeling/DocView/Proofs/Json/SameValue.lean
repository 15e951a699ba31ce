import DocView.Proofs.Double.Exact
import DocView.Proofs.Json.Collation

/-!
What the equality of key order means: values are equal in it exactly if they are the same once every
number is rounded to binary64. So values whose numbers rounding leaves alone are the same value.
-/

namespace DocView.Json

namespace Number

/-- The value of a number, counted in units of the least positive binary64 magnitude. -/
def units : Number → Int
  | .integer value _ => value * (2 ^ Double.unitBits : Nat)
  | .float value => if value.negative then -(Double.units value.rank : Int) else Double.units value.rank

/-- The value of the binary64 number nearest to a number, in the same units. -/
def roundedUnits (number : Number) : Int := Double.signedUnits number.ordinal

/-- Whether rounding to binary64 leaves the value of a number alone. -/
def IsExact (number : Number) : Prop := number.roundedUnits = number.units

instance (number : Number) : Decidable number.IsExact :=
  inferInstanceAs (Decidable (number.roundedUnits = number.units))

/-- Floats are binary64 numbers already. -/
theorem isExact_float (value : Double) : (Number.float value).IsExact := by
  -- The place of a float is its rank with its sign, so nothing is rounded.
  obtain ⟨negative, rank, finite⟩ := value
  cases negative with
  | false => rfl
  | true => exact Double.signedUnits_neg rank

/-- Integers of no more than 53 bits are binary64 numbers. -/
theorem isExact_integer {value : Int} {fits : -2 ^ 63 ≤ value ∧ value < 2 ^ 64}
    (small : value.natAbs ≤ 2 ^ 53) : (Number.integer value fits).IsExact :=
  Double.signedUnits_ordinalOfInt small

/-- Numbers are equal in key order exactly if they are rounded to the same value. -/
theorem compare_ordinal_eq_iff {left right : Number} :
    compare left.ordinal right.ordinal = .eq ↔ left.roundedUnits = right.roundedUnits := by
  -- The place of a double and the number it holds determine each other.
  constructor
  · -- Equal places hold one number, and different places hold different ones.
    intro same
    exact congrArg Double.signedUnits (Std.compare_eq_iff_eq.1 same)
  · intro same
    rw [Double.signedUnits_inj same]
    exact Std.ReflCmp.compare_self

end Number

mutual

/-- Whether two values are the same as far as a measure of numbers tells. -/
def Alike (measure : Number → Int) : Json → Json → Prop
  | null, null => True
  | bool left, bool right => left = right
  | number left, number right => measure left = measure right
  | string left, string right => left = right
  | array left, array right => AlikeItems measure left right
  | object left, object right => AlikeMembers measure left right
  | _, _ => False
termination_by structural left => left

/-- Lists are compared item by item. -/
def AlikeItems (measure : Number → Int) : List Json → List Json → Prop
  | [], [] => True
  | item :: items, other :: others => Alike measure item other ∧ AlikeItems measure items others
  | _, _ => False
termination_by structural left => left

/-- Objects are compared member by member, in the order of their keys. -/
def AlikeMembers (measure : Number → Int) {low lowOther : Option String} :
    Entries Json low → Entries Json lowOther → Prop
  | .nil, .nil => True
  | .cons key _ value rest, .cons otherKey _ otherValue otherRest =>
    (key = otherKey ∧ Alike measure value otherValue) ∧ AlikeMembers measure rest otherRest
  | _, _ => False
termination_by structural left => left

end

/-- Whether two values are the same when numbers are compared by their mathematical value. -/
def SameValue : Json → Json → Prop := Alike Number.units

mutual

/-- The numbers that a value holds. -/
def numbers : Json → List Number
  | number value => [value]
  | array items => numbersOfItems items
  | object members => numbersOfMembers members
  | null | bool _ | string _ => []
termination_by structural value => value

/-- The numbers that items hold. -/
def numbersOfItems : List Json → List Number
  | [] => []
  | item :: items => item.numbers ++ numbersOfItems items
termination_by structural items => items

/-- The numbers that members hold. -/
def numbersOfMembers {low : Option String} : Entries Json low → List Number
  | .nil => []
  | .cons _ _ value rest => value.numbers ++ numbersOfMembers rest
termination_by structural members => members

end

/-- Whether rounding to binary64 leaves all numbers of a value alone. -/
def IsExact (value : Json) : Prop := ∀ number ∈ value.numbers, number.IsExact

instance (value : Json) : Decidable value.IsExact :=
  inferInstanceAs (Decidable (∀ number ∈ value.numbers, number.IsExact))

/-- Whether the integers of a value have no more than 53 bits, or are the first that has 54. -/
def HasSmallIntegers (value : Json) : Prop :=
  ∀ whole fits, Number.integer whole fits ∈ value.numbers → whole.natAbs ≤ 2 ^ 53

/-- Values of small integers and of any floats hold exact numbers only. -/
theorem isExact_of_small {value : Json} (small : value.HasSmallIntegers) : value.IsExact := by
  -- A float is exact whatever its value, so only the integers have to be small.
  intro number member
  cases number with
  | integer whole fits => exact Number.isExact_integer (small whole fits member)
  | float value => exact Number.isExact_float value

section Equality

variable {measure other : Number → Int}

/-- Values that are alike are of one kind. -/
theorem Alike.rank_eq {left right : Json} (alike : left.Alike measure right) :
    left.rank = right.rank := by
  -- On two kinds, likeness is the false proposition.
  cases left <;> cases right <;> first | rfl | exact alike.elim

/-- Values of different kinds are neither equal in key order nor alike. -/
theorem collate_eq_iff_of_rank_ne {left right : Json} (differ : left.rank ≠ right.rank) :
    left.collate right = .eq ↔ left.Alike measure right := by
  -- Neither side can hold for values of two kinds.
  constructor
  · -- In key order the kinds decide, and they differ.
    intro same
    rw [collate_of_rank_ne differ] at same
    exact absurd (Nat.compare_eq_eq.1 same) differ
  · intro alike
    exact absurd alike.rank_eq differ

mutual

/-- Values are equal in key order exactly if they are alike once their numbers are rounded. -/
theorem collate_eq_iff : (left right : Json) →
    (left.collate right = .eq ↔ left.Alike Number.roundedUnits right)
  -- Values of one kind are compared by what they hold, and all others differ in their kinds.
  | .null, right => by
    cases right with
    | null => exact iff_of_true rfl trivial
    | _ => exact collate_eq_iff_of_rank_ne (by simp [rank])
  | .bool left, right => by
    cases right with
    | bool right => exact Std.compare_eq_iff_eq (a := left) (b := right)
    | _ => exact collate_eq_iff_of_rank_ne (by simp [rank])
  | .number left, right => by
    cases right with
    | number right => exact Number.compare_ordinal_eq_iff
    | _ => exact collate_eq_iff_of_rank_ne (by simp [rank])
  | .string left, right => by
    cases right with
    | string right => exact Std.compare_eq_iff_eq (a := left) (b := right)
    | _ => exact collate_eq_iff_of_rank_ne (by simp [rank])
  | .array left, right => by
    cases right with
    | array right => exact collateItems_eq_iff left right
    | _ => exact collate_eq_iff_of_rank_ne (by simp [rank])
  | .object left, right => by
    cases right with
    | object right => exact collateMembers_eq_iff left right
    | _ => exact collate_eq_iff_of_rank_ne (by simp [rank])
termination_by structural left => left

/-- Lists are equal in key order exactly if their items are. -/
theorem collateItems_eq_iff : (left right : List Json) →
    (collateItems left right = .eq ↔ AlikeItems Number.roundedUnits left right)
  | [], [] => iff_of_true rfl trivial
  | [], _ :: _ => iff_of_false nofun id
  | _ :: _, [] => iff_of_false nofun id
  | item :: items, other :: others => by
    -- A lexicographic comparison is equal if both of its parts are.
    simp only [collateItems, AlikeItems, Ordering.then_eq_eq]
    rw [collate_eq_iff item other, collateItems_eq_iff items others]
termination_by structural left => left

/-- Objects are equal in key order exactly if their members are. -/
theorem collateMembers_eq_iff {low lowOther : Option String} : (left : Entries Json low) →
    (right : Entries Json lowOther) →
      (collateMembers left right = .eq ↔ AlikeMembers Number.roundedUnits left right)
  | .nil, .nil => iff_of_true rfl trivial
  | .nil, .cons .. => iff_of_false nofun id
  | .cons .., .nil => iff_of_false nofun id
  | .cons key _ value rest, .cons otherKey _ otherValue otherRest => by
    simp only [collateMembers, AlikeMembers, Ordering.then_eq_eq]
    rw [collate_eq_iff value otherValue, collateMembers_eq_iff rest otherRest,
      Std.compare_eq_iff_eq]
termination_by structural left => left

end

mutual

/-- Two measures that agree on all numbers of two values tell the same of them. -/
theorem alike_congr : (left right : Json) →
    (∀ number ∈ left.numbers, measure number = other number) →
    (∀ number ∈ right.numbers, measure number = other number) →
      (left.Alike measure right ↔ left.Alike other right)
  -- A measure is asked only for two numbers, and these are among the numbers of the two values.
  | .null, right, _, _ => by cases right <;> exact Iff.rfl
  | .bool left, right, _, _ => by cases right <;> exact Iff.rfl
  | .number left, right, here, there => by
    cases right with
    | number right =>
      simp only [numbers, List.mem_singleton, forall_eq] at here there
      simp only [Alike, here, there]
    | _ => exact Iff.rfl
  | .string left, right, _, _ => by cases right <;> exact Iff.rfl
  | .array left, right, here, there => by
    cases right with
    | array right => exact alikeItems_congr left right here there
    | _ => exact Iff.rfl
  | .object left, right, here, there => by
    cases right with
    | object right => exact alikeMembers_congr left right here there
    | _ => exact Iff.rfl
termination_by structural left => left

/-- Two measures that agree on all numbers of two lists tell the same of them. -/
theorem alikeItems_congr : (left right : List Json) →
    (∀ number ∈ numbersOfItems left, measure number = other number) →
    (∀ number ∈ numbersOfItems right, measure number = other number) →
      (AlikeItems measure left right ↔ AlikeItems other left right)
  | [], right, _, _ => by cases right <;> exact Iff.rfl
  | _ :: _, [], _, _ => Iff.rfl
  | item :: items, second :: others, here, there => by
    -- The numbers of the list are those of its first item and those of the others.
    simp only [numbersOfItems, List.forall_mem_append] at here there
    simp only [AlikeItems, alike_congr item second here.1 there.1,
      alikeItems_congr items others here.2 there.2]
termination_by structural left => left

/-- Two measures that agree on all numbers of two objects tell the same of them. -/
theorem alikeMembers_congr {low lowOther : Option String} : (left : Entries Json low) →
    (right : Entries Json lowOther) →
    (∀ number ∈ numbersOfMembers left, measure number = other number) →
    (∀ number ∈ numbersOfMembers right, measure number = other number) →
      (AlikeMembers measure left right ↔ AlikeMembers other left right)
  | .nil, right, _, _ => by cases right <;> exact Iff.rfl
  | .cons .., .nil, _, _ => Iff.rfl
  | .cons key _ value rest, .cons otherKey _ otherValue otherRest, here, there => by
    simp only [numbersOfMembers, List.forall_mem_append] at here there
    simp only [AlikeMembers, alike_congr value otherValue here.1 there.1,
      alikeMembers_congr rest otherRest here.2 there.2]
termination_by structural left => left

end

/-- Values of exact numbers are equal in key order exactly if they are the same value. -/
theorem collate_eq_iff_sameValue {left right : Json} (leftExact : left.IsExact)
    (rightExact : right.IsExact) : left.collate right = .eq ↔ left.SameValue right :=
  -- On exact numbers, the rounded value and the value itself are one measure.
  (collate_eq_iff left right).trans (alike_congr left right leftExact rightExact)

end Equality

end DocView.Json
