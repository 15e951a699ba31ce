import DocView.Json.Decode
import Mathlib.Data.List.Forall2

/-!
What is read out of a value: which values give which data, and which member of a record is read,
whether the record is written as an object or as a list.
-/

namespace DocView

section Steps

variable {ε α β : Type} {step : Except ε α}

/-- Two steps give a result exactly if the first one gives what the second one goes on with. -/
theorem bind_eq_ok_iff {next : α → Except ε β} {result : β} :
    step >>= next = .ok result ↔ ∃ value, step = .ok value ∧ next value = .ok result := by
  cases step <;> simp [bind, Except.bind]

/-- A step whose result is changed gives what the change makes of a result. -/
theorem map_eq_ok_iff {change : α → β} {result : β} :
    step.map change = .ok result ↔ ∃ value, step = .ok value ∧ change value = result := by
  cases step <;> simp [Except.map]

/-- A list is read item by item, or not at all. -/
theorem mapM_eq_ok_iff {read : α → Except ε β} {items : List α} {results : List β} :
    items.mapM read = .ok results ↔
      List.Forall₂ (fun item result => read item = .ok result) items results := by
  -- The first item is read before the others, and its result is put before theirs.
  induction items generalizing results with
  | nil => simp [pure, Except.pure, eq_comm]
  | cons item items ih =>
    rw [List.mapM_cons, bind_eq_ok_iff, List.forall₂_cons_left_iff]
    simp only [bind_eq_ok_iff, ih, pure, Except.pure, Except.ok.injEq, eq_comm (b := results)]
    constructor
    · rintro ⟨first, readFirst, rest, readRest, same⟩
      exact ⟨first, rest, readFirst, readRest, same⟩
    · rintro ⟨first, rest, readFirst, readRest, same⟩
      exact ⟨first, readFirst, rest, readRest, same⟩

end Steps

namespace Decoder

variable {α : Type} {item : Decoder α} {write : α → Json}

/-- Whether each data is read from one value alone, the one that it is written as. -/
def Exact (item : Decoder α) (write : α → Json) : Prop :=
  ∀ value data, item value = .ok data ↔ value = write data

/-- Any value is read as it is. -/
theorem exact_any : Exact any id := fun value data => by simp [any]

/-- A text is read from a text. -/
theorem exact_text : Exact text .string := fun value data => by
  cases value <;> simp [text]

/-- A map is read from an object. -/
theorem exact_table : Exact table .object := fun value data => by
  cases value <;> simp [table]

/-- A whole number is read from that number. -/
theorem exact_word64 : Exact word64 .ofUInt64 := fun value data => by
  -- Of all values only a whole number from zero to the greatest word is written for a word.
  cases value with
  | null | bool _ | string _ | array _ | object _ => simp [word64, Json.ofUInt64]
  | number number =>
    cases number with
    | float _ => simp [word64, Json.ofUInt64]
    | integer value fits =>
      simp only [word64, Json.ofUInt64, Json.number.injEq, Json.Number.integer.injEq]
      split
      · -- A word is never below zero.
        simp only [reduceCtorEq, false_iff]
        omega
      · rw [Except.ok.injEq, ← UInt64.toNat_inj, UInt64.toNat_ofNat_of_lt' (by simp; omega)]
        omega

/-- A value that is not null is read as the data that null could have stood in for. -/
theorem optional_of_ne_null {value : Json} (solid : value ≠ .null) :
    optional item value = (item value).map some := by
  cases value <;> first | rfl | exact absurd rfl solid

/-- If no data is written as null, null stands for its absence alone. -/
theorem Exact.optional (exact : item.Exact write) (solid : ∀ data, write data ≠ .null) :
    (Decoder.optional item).Exact fun data => (data.map write).getD .null := by
  -- A null is read without the decoder of the item, and every other value by it.
  intro value data
  by_cases absent : value = .null
  · subst absent
    cases data <;> simp [Decoder.optional, (solid _).symm]
  · rw [optional_of_ne_null absent, map_eq_ok_iff]
    cases data <;> simp [exact _ _, absent]

/-- A list is read from an array whose items are those of the list. -/
theorem list_eq_ok_iff {value : Json} {data : List α} :
    list item value = .ok data ↔ ∃ items, value = .array items ∧
      List.Forall₂ (fun value data => item value = .ok data) items data := by
  cases value <;> simp [list, mapM_eq_ok_iff]

/-- What is read where a value stands, or where none stands. -/
def given (item : Decoder α) : Option Json → Except DecodeError (Option α)
  | none => .ok none
  | some value => (item value).map some

/-- Data is read where the value stands that it is written as, and none where none stands. -/
theorem Exact.given_iff (exact : item.Exact write) {found : Option Json} {data : Option α} :
    item.given found = .ok data ↔ found = data.map write := by
  cases found with
  | none => cases data <;> simp [given]
  | some value => cases data <;> simp [given, map_eq_ok_iff, exact _ _]

end Decoder

namespace Json

/-- A text is not null. -/
theorem string_ne_null (text : String) : string text ≠ null := by simp

/-- A count is not null. -/
theorem ofUInt64_ne_null (count : UInt64) : ofUInt64 count ≠ null := by simp [ofUInt64]

/-- A value that stands somewhere, if it is not null. -/
def present? (found : Option Json) : Option Json := found.filter (· ≠ .null)

/-- Nothing is present where nothing stands. -/
@[simp] theorem present?_none : present? none = none := rfl

/-- A null is not present. -/
@[simp] theorem present?_null : present? (some .null) = none := rfl

/-- Any other value is present. -/
theorem present?_of_ne_null {value : Json} (solid : value ≠ .null) :
    present? (some value) = some value := by
  simp [present?, solid]

/-- What is present is not null, so it is present again. -/
theorem present?_present? (found : Option Json) : present? (present? found) = present? found := by
  simp [present?, Option.filter_filter]

/-- Data that is never written as null is present wherever it is. -/
theorem present?_map {α : Type} {write : α → Json} (solid : ∀ data, write data ≠ .null)
    (data : Option α) : present? (data.map write) = data.map write := by
  cases data with
  | none => rfl
  | some data => exact present?_of_ne_null (solid data)

/-- The member of a record that has a name in an object and a place in a list. -/
def member? (value : Json) (name : String) (place : Nat) : Option Json :=
  match value with
  | object members => members.get? name
  | array items => items[place]?
  | _ => none

/-- Whether a value may be a record of so many members: an object, or a list of no more of them. -/
def IsRecord (value : Json) (count : Nat) : Prop :=
  match value with
  | object _ => True
  | array items => items.length ≤ count
  | _ => False

end Json

/-- Null and absence give the same where null stands in for data. -/
theorem Decoder.Exact.given_optional_iff {α : Type} {item : Decoder α} {write : α → Json}
    (exact : item.Exact write) {found : Option Json} {data : Option α} :
    (∃ read, (Decoder.optional item).given found = .ok read ∧ read.join = data) ↔
      Json.present? found = data.map write := by
  -- Nothing is read from a value that is absent and from a null.
  rcases found with _ | value
  · cases data <;> simp [given]
  by_cases absent : value = .null
  · subst absent
    cases data <;> simp [given, Decoder.optional, Except.map]
  · rw [Json.present?_of_ne_null absent, given, optional_of_ne_null absent]
    cases data <;> simp [map_eq_ok_iff, exact _ _]

/-- Any value is read where it stands. -/
theorem Decoder.given_any_iff {found data : Option Json} :
    Decoder.any.given found = .ok data ↔ found = data := by
  rw [exact_any.given_iff, Option.map_id, id]

/-- Any value but null is read where it stands if null stands in for its absence. -/
theorem Decoder.given_optional_any_iff {found data : Option Json} :
    (∃ read, (Decoder.optional .any).given found = .ok read ∧ read.join = data) ↔
      Json.present? found = data := by
  rw [exact_any.given_optional_iff, Option.map_id, id]

section Members

variable {α : Type} {item : Decoder α} {members : Table Json} {name : String} {items : List Json}
  {count : Nat}

/-- The member of an object is read where a value stands under its name. -/
theorem decode?_eq_given : members.decode? name item = item.given (members.get? name) := by
  unfold Entries.decode? Decoder.given
  cases members.get? name <;> rfl

/-- The item of a list is read where a value stands at its position. -/
theorem decodeAt?_eq_given {position : Nat} :
    decodeAt? items position item = item.given items[position]? := by
  unfold decodeAt? Decoder.given
  cases items[position]? <;> rfl

/-- A member of another name is not read. -/
theorem decode?_insert_of_ne {other : String} (differ : other ≠ name) (value : Json) :
    (members.insert other value).decode? name item = members.decode? name item := by
  rw [decode?_eq_given, decode?_eq_given, Entries.get?_insert, if_neg differ]

/-- A member without a default is there. -/
theorem required_eq_ok_iff {found : Option α} {value : α} :
    required name found = .ok value ↔ found = some value := by
  cases found <;> simp [required]

/-- An item without a default is there. -/
theorem requiredAt_eq_ok_iff {position : Nat} {wanted : String} {found : Option α} {value : α} :
    requiredAt position wanted found = .ok value ↔ found = some value := by
  cases found <;> simp [requiredAt]

/-- A list is let through if it holds no more than the members of the record. -/
theorem refuseMore_eq_ok_iff {result : Unit} :
    refuseMore items count = .ok result ↔ items.length ≤ count := by
  unfold refuseMore
  split <;> simp <;> omega

end Members

end DocView
