import DocView.Double
import DocView.Table

/-!
JSON values. Integers of up to 64 bits stay exact and every other number is a binary64 number;
the members of an object stand in ascending key order, each key once.
-/

namespace DocView

/-- A number as a document holds it. -/
inductive Json.Number where
  /-- A whole number that fits 64 bits, signed or unsigned. -/
  | integer (value : Int) (fits : -2 ^ 63 ≤ value ∧ value < 2 ^ 64)
  /-- Any other number. -/
  | float (value : Double)
deriving DecidableEq

/-- A JSON value. -/
inductive Json where
  /-- The value that stands for absence. -/
  | null
  /-- A truth value. -/
  | bool (value : Bool)
  /-- A number. -/
  | number (value : Json.Number)
  /-- A text. -/
  | string (value : String)
  /-- A list of values. -/
  | array (items : List Json)
  /-- A map from texts to values. -/
  | object (members : Entries Json none)

namespace Json

instance : Inhabited Json := ⟨.null⟩

mutual

/-- Values are compared as they are written, so a whole float differs from the integer it equals. -/
def decEq : (left right : Json) → Decidable (left = right)
  | null, null => isTrue rfl
  | bool left, bool right =>
    if same : left = right then isTrue (by rw [same]) else isFalse (by simp [same])
  | number left, number right =>
    if same : left = right then isTrue (by rw [same]) else isFalse (by simp [same])
  | string left, string right =>
    if same : left = right then isTrue (by rw [same]) else isFalse (by simp [same])
  | array left, array right =>
    match decEqItems left right with
    | isTrue same => isTrue (by rw [same])
    | isFalse differ => isFalse (by simp [differ])
  | object left, object right =>
    match decEqMembers left right with
    | isTrue same => isTrue (by rw [same])
    | isFalse differ => isFalse (by simp [differ])
  | null, bool _ | null, number _ | null, string _ | null, array _ | null, object _
  | bool _, null | bool _, number _ | bool _, string _ | bool _, array _ | bool _, object _
  | number _, null | number _, bool _ | number _, string _ | number _, array _ | number _, object _
  | string _, null | string _, bool _ | string _, number _ | string _, array _ | string _, object _
  | array _, null | array _, bool _ | array _, number _ | array _, string _ | array _, object _
  | object _, null | object _, bool _ | object _, number _ | object _, string _
  | object _, array _ => isFalse nofun
termination_by structural left => left

/-- Lists of values are compared item by item. -/
def decEqItems : (left right : List Json) → Decidable (left = right)
  | [], [] => isTrue rfl
  | [], _ :: _ => isFalse nofun
  | _ :: _, [] => isFalse nofun
  | item :: items, other :: others =>
    match decEq item other, decEqItems items others with
    | isTrue same, isTrue sameRest => isTrue (by rw [same, sameRest])
    | isFalse differ, _ => isFalse (by simp [differ])
    | _, isFalse differ => isFalse (by simp [differ])
termination_by structural left => left

/-- Objects are compared member by member. -/
def decEqMembers {low : Option String} :
    (left right : Entries Json low) → Decidable (left = right)
  | .nil, .nil => isTrue rfl
  | .nil, .cons .. => isFalse nofun
  | .cons .., .nil => isFalse nofun
  | .cons key _ value rest, .cons otherKey _ otherValue otherRest =>
    if sameKey : key = otherKey then
      match decEq value otherValue, decEqMembers rest (sameKey ▸ otherRest) with
      | isTrue same, isTrue sameRest =>
        isTrue (by subst sameKey; subst sameRest; rw [same])
      | isFalse differ, _ => isFalse (by simp [differ])
      | _, isFalse differ => isFalse (by subst sameKey; intro same; cases same; exact differ rfl)
    else isFalse (by simp [sameKey])
termination_by structural left => left

end

instance : DecidableEq Json := decEq

/-- A whole number of 64 bits. -/
def ofUInt64 (value : UInt64) : Json :=
  .number (.integer value.toNat (by have := value.toNat_lt; omega))

/-- The number of things held in memory, which fits 64 bits. -/
def ofCount (count : Nat) : Json := ofUInt64 (UInt64.ofNat count)

/-- The object of a list of members, where the last member of a key wins. -/
def ofMembers (members : List (String × Json)) : Json := .object (Table.ofList members)

/-- The member of an object under a key; no other value has members. -/
def get? : Json → String → Option Json
  | object members, key => members.get? key
  | _, _ => none

/-- The members of an object; any other value has none. -/
def members : Json → Table Json
  | object members => members
  | _ => ∅

/-- Whether a value is an object. -/
def IsObject (value : Json) : Prop := ∃ members, value = .object members

/-- The text that a value holds, if it holds one. -/
def asString? : Json → Option String
  | string value => some value
  | _ => none

end Json

end DocView
