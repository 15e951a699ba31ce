import DocView.Json.Decode

/-! What a view answers: its rows, and how many rows it holds in all. -/

namespace DocView

/-- One row of a view. -/
structure ViewRow where
  /-- The id of the document the row comes from. -/
  id : Option String := none
  /-- The key of the row. -/
  key : Json := .null
  /-- The value of the row. -/
  value : Json := .null
  /-- The document the row comes from, when it was asked for. -/
  doc : Option Json := none
deriving DecidableEq

namespace ViewRow

/-- Reads a row from an object or from a list of its members. -/
def ofJson? : Decoder ViewRow
  | .object members => do
    let doc ← members.decode? "doc" (Decoder.optional .any)
    let id ← members.decode? "id" (Decoder.optional .text)
    let key ← members.decode? "key" .any
    let value ← members.decode? "value" .any
    return ⟨id.join, key.getD .null, value.getD .null, doc.join⟩
  | .array items => do
    let id ← decodeAt? items 0 (Decoder.optional .text)
    let key ← decodeAt? items 1 .any
    let value ← decodeAt? items 2 .any
    let doc ← decodeAt? items 3 (Decoder.optional .any)
    refuseMore items 4
    return ⟨id.join, key.getD .null, value.getD .null, doc.join⟩
  | found => .error (.wrongType found "struct ViewRow")

/-- The object of a row; an absent id or document is left out. -/
def toJson (row : ViewRow) : Json :=
  .ofMembers <|
    (row.id.map fun id => ("id", .string id)).toList
      ++ [("key", row.key), ("value", row.value)]
      ++ (row.doc.map fun doc => ("doc", doc)).toList

end ViewRow

/-- The rows that a view answers. -/
structure ViewResponse where
  /-- How many rows the view holds. -/
  totalRows : Option UInt64 := none
  /-- How many rows lie before the first one answered. -/
  offset : Option UInt64 := none
  /-- The rows in their order. -/
  rows : List ViewRow
deriving DecidableEq

namespace ViewResponse

/-- What an answer is called in a message about its length. -/
def described : String := recordOf "ViewResponse" 3

/-- Reads an answer from an object or from a list of its members. -/
def ofJson? : Decoder ViewResponse
  | .object members => do
    let offset ← members.decode? "offset" (Decoder.optional .word64)
    let rows ← members.decode? "rows" (Decoder.list ViewRow.ofJson?)
    let totalRows ← members.decode? "total_rows" (Decoder.optional .word64)
    -- What is missing is told only when all that is there could be read.
    let rows ← required "rows" rows
    return ⟨totalRows.join, offset.join, rows⟩
  | .array items => do
    let totalRows ← decodeAt? items 0 (Decoder.optional .word64)
    let offset ← decodeAt? items 1 (Decoder.optional .word64)
    let rows ← decodeAt? items 2 (Decoder.list ViewRow.ofJson?)
    let rows ← requiredAt 2 described rows
    refuseMore items 3
    return ⟨totalRows.join, offset.join, rows⟩
  | found => .error (.wrongType found "struct ViewResponse")

/-- The object of an answer; an absent count is left out. -/
def toJson (response : ViewResponse) : Json :=
  .ofMembers <|
    (response.totalRows.map fun count => ("total_rows", .ofUInt64 count)).toList
      ++ (response.offset.map fun count => ("offset", .ofUInt64 count)).toList
      ++ [("rows", .array (response.rows.map ViewRow.toJson))]

/-- The documents that the rows bring, in the order of the rows. -/
def docs (response : ViewResponse) : List Json := response.rows.filterMap ViewRow.doc

end ViewResponse

/-- The body of a failure that a store answers. -/
structure ErrorBody where
  /-- The kind of failure. -/
  error : String
  /-- More about it. -/
  reason : String := ""
deriving DecidableEq

namespace ErrorBody

/-- The body that tells of something missing. -/
def notFound (reason : String) : ErrorBody := ⟨"not_found", reason⟩

/-- The body that tells of a write on a stale revision. -/
def conflict : ErrorBody := ⟨"conflict", "Document update conflict."⟩

/-- The object of a failure. -/
def toJson (body : ErrorBody) : Json :=
  .ofMembers [("error", .string body.error), ("reason", .string body.reason)]

/-- Reads a failure from an object or from a list of its members. -/
def ofJson? : Decoder ErrorBody
  | .object members => do
    let error ← members.decode? "error" .text
    let reason ← members.decode? "reason" .text
    let error ← required "error" error
    return ⟨error, reason.getD ""⟩
  | .array items => do
    let error ← decodeAt? items 0 .text
    let error ← requiredAt 0 (recordOf "ErrorBody" 2) error
    let reason ← decodeAt? items 1 .text
    refuseMore items 2
    return ⟨error, reason.getD ""⟩
  | found => .error (.wrongType found "struct ErrorBody")

/-- Whether a body tells of something missing. -/
def isNotFound (body : Json) : Bool :=
  (body.get? "error").bind Json.asString? = some "not_found"

/-- That something is missing is told by one text in one member, and by nothing else. -/
theorem isNotFound_iff {body : Json} :
    isNotFound body = true ↔ body.get? "error" = some (.string "not_found") := by
  -- Only a text is read as one, so every other member tells of nothing.
  unfold isNotFound
  cases body.get? "error" with
  | none => simp
  | some error => cases error <;> simp [Json.asString?]

end ErrorBody

end DocView
