import DocView.Json.Printer
import DocView.Text.Quoted

/-!
Reading typed data out of JSON values. A record is read from an object, whose unknown members are
ignored, or from a list of its members in their declared order, whose missing tail takes defaults.
-/

namespace DocView

/-- Why a value is not the data that is wanted. -/
inductive DecodeError where
  /-- The value is of another kind. -/
  | wrongType (found : Json) (wanted : String)
  /-- The value is of the kind, but not one of those wanted. -/
  | wrongValue (found : Json) (wanted : String)
  /-- A member without a default is absent. -/
  | missingField (name : String)
  /-- A list of so many items is too short or too long. -/
  | wrongLength (length : Nat) (wanted : String)
  /-- A name is none of those known. -/
  | unknownVariant (name : String) (known : String)
deriving DecidableEq

/-- What a value is called in a message. -/
def Json.description : Json → String
  | .null => "null"
  | .bool value => s!"boolean `{truthText value}`"
  | .number (.integer value _) => s!"integer `{String.ofList (renderInt value)}`"
  | .number (.float value) => s!"floating point `{String.ofList value.render}`"
  | .string value => s!"string {quote value}"
  | .array _ => "sequence"
  | .object _ => "map"

/-- The wording of an error. -/
def DecodeError.message : DecodeError → String
  | wrongType found wanted => s!"invalid type: {found.description}, expected {wanted}"
  | wrongValue found wanted => s!"invalid value: {found.description}, expected {wanted}"
  | missingField name => s!"missing field `{name}`"
  | wrongLength length wanted => s!"invalid length {length}, expected {wanted}"
  | unknownVariant name known => s!"unknown variant `{name}`, expected {known}"

/-- Reads data out of a value. -/
abbrev Decoder (α : Type) := Json → Except DecodeError α

namespace Decoder

/-- Any value. -/
def any : Decoder Json := fun value => .ok value

/-- A text. -/
def text : Decoder String
  | .string value => .ok value
  | found => .error (.wrongType found "a string")

/-- A truth value. -/
def truth : Decoder Bool
  | .bool value => .ok value
  | found => .error (.wrongType found "a boolean")

/-- A whole number of 64 bits. -/
def word64 : Decoder UInt64
  | .number (.integer value fits) =>
    if value < 0 then .error (.wrongValue (.number (.integer value fits)) "u64")
    else .ok (.ofNat value.toNat)
  | found => .error (.wrongType found "u64")

/-- A whole number of 32 bits. -/
def word32 : Decoder UInt32
  | .number (.integer value fits) =>
    if value < 0 ∨ 2 ^ 32 ≤ value then .error (.wrongValue (.number (.integer value fits)) "u32")
    else .ok (.ofNat value.toNat)
  | found => .error (.wrongType found "u32")

/-- A list of data. -/
def list {α : Type} (item : Decoder α) : Decoder (List α)
  | .array items => items.mapM item
  | found => .error (.wrongType found "a sequence")

/-- A map from texts. -/
def table : Decoder (Table Json)
  | .object members => .ok members
  | found => .error (.wrongType found "a map")

/-- Data that null stands in for. -/
def optional {α : Type} (item : Decoder α) : Decoder (Option α)
  | .null => .ok none
  | value => (item value).map some

end Decoder

/-- Reads the member of an object under a name, if it is there. -/
def Entries.decode? {α : Type} (members : Table Json) (name : String) (item : Decoder α) :
    Except DecodeError (Option α) :=
  match members.get? name with
  | none => .ok none
  | some value => (item value).map some

/-- The value of a member that has no default. -/
def required {α : Type} (name : String) : Option α → Except DecodeError α
  | some value => .ok value
  | none => .error (.missingField name)

/-- What a record of so many members is called in a message about its length. -/
def recordOf (name : String) (count : Nat) : String :=
  s!"struct {name} with {count} elements"

/-- Reads the item of a list at a position, if the list is long enough. -/
def decodeAt? {α : Type} (items : List Json) (position : Nat) (item : Decoder α) :
    Except DecodeError (Option α) :=
  match items[position]? with
  | none => .ok none
  | some value => (item value).map some

/-- The value of an item that has no default. -/
def requiredAt {α : Type} (position : Nat) (wanted : String) : Option α → Except DecodeError α
  | some value => .ok value
  | none => .error (.wrongLength position wanted)

/-- Refuses a list that holds more than the members of a record. -/
def refuseMore (items : List Json) (count : Nat) : Except DecodeError Unit :=
  if count < items.length then .error (.wrongLength items.length "fewer elements in array")
  else .ok ()

end DocView
