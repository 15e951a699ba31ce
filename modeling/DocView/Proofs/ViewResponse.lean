import DocView.Materializer
import DocView.Proofs.Json.Decode

/-!
What a store answers is read without loss. Every row holds what the element at its place holds, and
what was read is read again from the object it is written as, which is the same for all bodies that
it is read from.
-/

namespace DocView

namespace ViewRow

/-- How a row hangs together with the element that it is read from. -/
structure ReadFrom (element : Json) (row : ViewRow) : Prop where
  /-- The element has the members of a row, by name or by place. -/
  record : element.IsRecord 4
  /-- The id is a text, and null is no id. -/
  id : Json.present? (element.member? "id" 0) = row.id.map .string
  /-- The key is that of the element, and null without one. -/
  key : (element.member? "key" 1).getD .null = row.key
  /-- The value is that of the element, and null without one. -/
  value : (element.member? "value" 2).getD .null = row.value
  /-- The document is that of the element, and null is no document. -/
  doc : Json.present? (element.member? "doc" 3) = row.doc

/-- A row hangs together with a record exactly if the members that stand there are read as it. -/
theorem readFrom_iff {element : Json} {row : ViewRow} :
    ReadFrom element row ↔ element.IsRecord 4 ∧ ∃ id key value doc,
      Decoder.given (.optional .text) (element.member? "id" 0) = .ok id ∧
      Decoder.given .any (element.member? "key" 1) = .ok key ∧
      Decoder.given .any (element.member? "value" 2) = .ok value ∧
      Decoder.given (.optional .any) (element.member? "doc" 3) = .ok doc ∧
      ⟨id.join, key.getD .null, value.getD .null, doc.join⟩ = row := by
  -- Each member is put in terms of the decoder that reads it.
  constructor
  · rintro ⟨record, id, key, value, doc⟩
    obtain ⟨id', idRead, idSame⟩ := Decoder.exact_text.given_optional_iff.2 id
    obtain ⟨doc', docRead, docSame⟩ := Decoder.given_optional_any_iff.2 doc
    exact ⟨record, id', _, _, doc', idRead, Decoder.given_any_iff.2 rfl,
      Decoder.given_any_iff.2 rfl, docRead, by rw [idSame, key, value, docSame]⟩
  · rintro ⟨record, id, key, value, doc, idRead, keyRead, valueRead, docRead, rfl⟩
    rw [Decoder.given_any_iff] at keyRead valueRead
    exact ⟨record, Decoder.exact_text.given_optional_iff.1 ⟨id, idRead, rfl⟩, by rw [keyRead],
      by rw [valueRead], Decoder.given_optional_any_iff.1 ⟨doc, docRead, rfl⟩⟩

/-- A row is read exactly from the elements that it hangs together with. -/
theorem ofJson?_eq_ok_iff {element : Json} {row : ViewRow} :
    ofJson? element = .ok row ↔ ReadFrom element row := by
  -- Reading is a chain of decoders, so it succeeds exactly if each of them does.
  rw [readFrom_iff]
  -- An object and a list give their members in different orders.
  cases element with
  | object members =>
    simp only [ofJson?, decode?_eq_given, bind_eq_ok_iff, pure, Except.pure, Except.ok.injEq]
    constructor
    · rintro ⟨doc, docRead, id, idRead, key, keyRead, value, valueRead, same⟩
      exact ⟨trivial, id, key, value, doc, idRead, keyRead, valueRead, docRead, same⟩
    · rintro ⟨-, id, key, value, doc, idRead, keyRead, valueRead, docRead, same⟩
      exact ⟨doc, docRead, id, idRead, key, keyRead, value, valueRead, same⟩
  | array items =>
    simp only [ofJson?, decodeAt?_eq_given, bind_eq_ok_iff, pure, Except.pure, Except.ok.injEq,
      refuseMore_eq_ok_iff]
    constructor
    · rintro ⟨id, idRead, key, keyRead, value, valueRead, doc, docRead, -, record, same⟩
      exact ⟨record, id, key, value, doc, idRead, keyRead, valueRead, docRead, same⟩
    · rintro ⟨record, id, key, value, doc, idRead, keyRead, valueRead, docRead, same⟩
      exact ⟨id, idRead, key, keyRead, value, valueRead, doc, docRead, (), record, same⟩
  | null | bool _ | number _ | string _ => exact iff_of_false nofun fun both => both.1

/-- The members of the object of a row; an absent id or document is no member. -/
theorem member?_toJson (row : ViewRow) (name : String) (place : Nat) :
    row.toJson.member? name place =
      if name = "id" then row.id.map .string
      else if name = "key" then some row.key
      else if name = "value" then some row.value
      else if name = "doc" then row.doc
      else none := by
  -- Each member that may be left out is there or not, and the names are compared in each case.
  obtain ⟨id, key, value, doc⟩ := row
  cases id <;> cases doc <;>
    simp only [toJson, Json.ofMembers, Json.member?, Table.ofList, Entries.get?_insert, Option.map,
      Option.toList, List.append_nil, List.nil_append, List.cons_append, List.foldl_cons,
      List.foldl_nil, Entries.get?_empty]
  all_goals grind

/-- A row is read from the object it is written as, unless its document is null. -/
theorem readFrom_toJson_iff {row : ViewRow} :
    ReadFrom row.toJson row ↔ Json.present? row.doc = row.doc := by
  -- A null in place of a document is taken for no document, and nothing else is lost.
  constructor
  · intro read
    have doc := read.doc
    rwa [member?_toJson] at doc
  · intro doc
    refine ⟨trivial, ?_, ?_, ?_, ?_⟩
    · rw [member?_toJson, if_pos rfl]
      exact Json.present?_map Json.string_ne_null row.id
    · rw [member?_toJson]
      rfl
    · rw [member?_toJson]
      rfl
    · rw [member?_toJson]
      exact doc

/-- No row that was read has a null for its document. -/
theorem ReadFrom.present {element : Json} {row : ViewRow} (read : ReadFrom element row) :
    Json.present? row.doc = row.doc := by
  rw [← read.doc, Json.present?_present?]

end ViewRow

namespace ViewResponse

/-- How an answer hangs together with the body that it is read from. -/
structure ReadFrom (body : Json) (response : ViewResponse) : Prop where
  /-- The body has the members of an answer, by name or by place. -/
  record : body.IsRecord 3
  /-- The count of all rows is a whole number, and null is no count. -/
  totalRows : Json.present? (body.member? "total_rows" 0) = response.totalRows.map .ofUInt64
  /-- The count of the rows before the first is a whole number, and null is no count. -/
  offset : Json.present? (body.member? "offset" 1) = response.offset.map .ofUInt64
  /-- There are rows, each of them read from the element at its place, and no others. -/
  rows : ∃ elements, body.member? "rows" 2 = some (.array elements) ∧
    List.Forall₂ ViewRow.ReadFrom elements response.rows

/-- The rows are read where an array of such elements stands. -/
theorem given_rows_iff {found : Option Json} {rows : List ViewRow} :
    Decoder.given (.list ViewRow.ofJson?) found = .ok (some rows) ↔
      ∃ elements, found = some (.array elements) ∧ List.Forall₂ ViewRow.ReadFrom elements rows := by
  cases found <;>
    simp [Decoder.given, map_eq_ok_iff, Decoder.list_eq_ok_iff, ViewRow.ofJson?_eq_ok_iff]

/-- An answer hangs together with a record exactly if the members that stand there are read as it. -/
theorem readFrom_iff {body : Json} {response : ViewResponse} :
    ReadFrom body response ↔ body.IsRecord 3 ∧ ∃ totalRows offset rows,
      Decoder.given (.optional .word64) (body.member? "total_rows" 0) = .ok totalRows ∧
      Decoder.given (.optional .word64) (body.member? "offset" 1) = .ok offset ∧
      Decoder.given (.list ViewRow.ofJson?) (body.member? "rows" 2) = .ok (some rows) ∧
      ⟨totalRows.join, offset.join, rows⟩ = response := by
  -- Each member is put in terms of the decoder that reads it, and the rows must be there.
  constructor
  · rintro ⟨record, totalRows, offset, rows⟩
    obtain ⟨totalRows', totalRead, totalSame⟩ := Decoder.exact_word64.given_optional_iff.2 totalRows
    obtain ⟨offset', offsetRead, offsetSame⟩ := Decoder.exact_word64.given_optional_iff.2 offset
    exact ⟨record, totalRows', offset', _, totalRead, offsetRead, given_rows_iff.2 rows,
      by rw [totalSame, offsetSame]⟩
  · rintro ⟨record, totalRows, offset, rows, totalRead, offsetRead, rowsRead, rfl⟩
    exact ⟨record, Decoder.exact_word64.given_optional_iff.1 ⟨totalRows, totalRead, rfl⟩,
      Decoder.exact_word64.given_optional_iff.1 ⟨offset, offsetRead, rfl⟩,
      given_rows_iff.1 rowsRead⟩

/-- An answer is read exactly from the bodies that it hangs together with. -/
theorem ofJson?_eq_ok_iff {body : Json} {response : ViewResponse} :
    ofJson? body = .ok response ↔ ReadFrom body response := by
  -- Reading is a chain of decoders, and that of the rows reads each element as a row.
  rw [readFrom_iff]
  -- The rows are asked for last in an object, and before the length in a list.
  cases body with
  | object members =>
    simp only [ofJson?, decode?_eq_given, bind_eq_ok_iff, required_eq_ok_iff, pure, Except.pure,
      Except.ok.injEq]
    constructor
    · rintro ⟨offset, offsetRead, _, rowsRead, totalRows, totalRead, rows, rfl, same⟩
      exact ⟨trivial, totalRows, offset, rows, totalRead, offsetRead, rowsRead, same⟩
    · rintro ⟨-, totalRows, offset, rows, totalRead, offsetRead, rowsRead, same⟩
      exact ⟨offset, offsetRead, _, rowsRead, totalRows, totalRead, rows, rfl, same⟩
  | array items =>
    simp only [ofJson?, decodeAt?_eq_given, bind_eq_ok_iff, requiredAt_eq_ok_iff, pure, Except.pure,
      Except.ok.injEq, refuseMore_eq_ok_iff]
    constructor
    · rintro ⟨totalRows, totalRead, offset, offsetRead, _, rowsRead, rows, rfl, -, record, same⟩
      exact ⟨record, totalRows, offset, rows, totalRead, offsetRead, rowsRead, same⟩
    · rintro ⟨record, totalRows, offset, rows, totalRead, offsetRead, rowsRead, same⟩
      exact ⟨totalRows, totalRead, offset, offsetRead, _, rowsRead, rows, rfl, (), record, same⟩
  | null | bool _ | number _ | string _ => exact iff_of_false nofun fun both => both.1

/-- The members of the object of an answer; an absent count is no member. -/
theorem member?_toJson (response : ViewResponse) (name : String) (place : Nat) :
    response.toJson.member? name place =
      if name = "total_rows" then response.totalRows.map .ofUInt64
      else if name = "offset" then response.offset.map .ofUInt64
      else if name = "rows" then some (.array (response.rows.map ViewRow.toJson))
      else none := by
  -- Each number that may be left out is there or not, and the names are compared in each case.
  obtain ⟨totalRows, offset, rows⟩ := response
  cases totalRows <;> cases offset <;>
    simp only [toJson, Json.ofMembers, Json.member?, Table.ofList, Entries.get?_insert, Option.map,
      Option.toList, List.nil_append, List.cons_append, List.foldl_cons, List.foldl_nil,
      Entries.get?_empty]
  all_goals grind

/-- An answer is read from the object it is written as, unless a document in its rows is null. -/
theorem readFrom_toJson_iff {response : ViewResponse} :
    ReadFrom response.toJson response ↔
      ∀ row ∈ response.rows, Json.present? row.doc = row.doc := by
  -- The numbers are read back as they are, so it comes down to the rows.
  have rows : List.Forall₂ ViewRow.ReadFrom (response.rows.map ViewRow.toJson) response.rows ↔
      ∀ row ∈ response.rows, Json.present? row.doc = row.doc := by
    simp only [List.forall₂_map_left_iff, List.forall₂_same, ViewRow.readFrom_toJson_iff]
  constructor
  · intro read
    obtain ⟨elements, held, readRows⟩ := read.rows
    rw [member?_toJson] at held
    cases held
    exact rows.1 readRows
  · intro docs
    refine ⟨trivial, ?_, ?_, _, ?_, rows.2 docs⟩
    · rw [member?_toJson, if_pos rfl]
      exact Json.present?_map Json.ofUInt64_ne_null response.totalRows
    · rw [member?_toJson, if_neg (by decide), if_pos rfl]
      exact Json.present?_map Json.ofUInt64_ne_null response.offset
    · rw [member?_toJson]
      rfl

/-- An answer that was read is read again from the object it is written as. -/
theorem ReadFrom.toJson {body : Json} {response : ViewResponse} (read : ReadFrom body response) :
    ReadFrom response.toJson response := by
  -- A row that was read has no null in place of its document.
  obtain ⟨elements, -, rows⟩ := read.rows
  rw [readFrom_toJson_iff]
  -- Each row was read from the element at its place.
  generalize response.rows = found at rows
  induction rows with
  | nil => nofun
  | cons first _ ih => exact List.forall_mem_cons.2 ⟨first.present, ih⟩

/-- The names of the members of an answer. -/
def memberNames : List String := ["total_rows", "offset", "rows"]

/-- A member of any other name makes no difference. -/
theorem ofJson?_insert {members : Table Json} {name : String} (unknown : name ∉ memberNames)
    (value : Json) : ofJson? (.object (members.insert name value)) = ofJson? (.object members) := by
  simp only [memberNames, List.mem_cons, List.not_mem_nil, or_false, not_or] at unknown
  obtain ⟨totalRows, offset, rows⟩ := unknown
  simp only [ofJson?, decode?_insert_of_ne totalRows, decode?_insert_of_ne offset,
    decode?_insert_of_ne rows]

/-- What it means that an answer was read from a body and nothing was lost. -/
structure Lossless (body : Json) (response : ViewResponse) : Prop where
  /-- The answer holds what the members of the body hold, row by row. -/
  read : ReadFrom body response
  /-- No other answer does. -/
  unique : ∀ other, ReadFrom body other → other = response
  /-- It is read from just those bodies that hold this, whatever they hold under other names. -/
  bodies : ∀ other, ofJson? other = .ok response ↔ ReadFrom other response
  /-- In particular a member of a name that is unknown makes no difference. -/
  unknown : ∀ members name value, body = .object members → name ∉ memberNames →
    ofJson? (.object (members.insert name value)) = .ok response
  /-- The answer is given to every request that the body is received for. -/
  given : ∀ request : ViewRequest, request.readRows body = .ok response
  /-- It is read again from the object that it is written as. -/
  reread : ofJson? response.toJson = .ok response
  /-- Two bodies are written as the same object exactly if the same is read from them. -/
  canonical : ∀ other again, ofJson? other = .ok again →
    (again.toJson = response.toJson ↔ again = response)

/--
Whatever is read as an answer is read without loss.

Members may be absent, null or present, and stand in an object or in a list of the members in their
order. An absent key or value is null, which is data as any other. For an id, a document or a count
null stands for absence, and what is absent is not written, so it is absent when it is read again.
-/
theorem ofJson?_lossless {body : Json} {response : ViewResponse}
    (read : ofJson? body = .ok response) : Lossless body response where
  read := ofJson?_eq_ok_iff.1 read
  unique other otherRead := by
    rw [← ofJson?_eq_ok_iff, read] at otherRead
    exact (Except.ok.inj otherRead).symm
  bodies _ := ofJson?_eq_ok_iff
  unknown members name value object unknown := by
    rw [ofJson?_insert unknown, ← object, read]
  given request := by rw [ViewRequest.readRows, read]
  reread := ofJson?_eq_ok_iff.2 (ofJson?_eq_ok_iff.1 read).toJson
  canonical other again otherRead := by
    refine ⟨fun same => ?_, congrArg toJson⟩
    -- What is written tells what is read from it.
    have first := ofJson?_eq_ok_iff.2 (ofJson?_eq_ok_iff.1 read).toJson
    have second := ofJson?_eq_ok_iff.2 (ofJson?_eq_ok_iff.1 otherRead).toJson
    rw [same, first] at second
    exact (Except.ok.inj second).symm

/-- A body with a member that no answer has, whose rows are objects and lists, with gaps and nulls. -/
def mixedBody : Json := .ofMembers [
  ("next", .string "page"),
  ("total_rows", .null),
  ("offset", .ofUInt64 7),
  ("rows", .array [
    .ofMembers [("id", .null), ("key", .array [.string "a", .null]), ("rank", .ofUInt64 3)],
    .array [.string "b"],
    .array [.null, .null, .bool true, .ofMembers [("_id", .string "c")]],
    .ofMembers [("id", .string "d"), ("doc", .null)]])]

/-- The answer that it holds. -/
def mixed : ViewResponse where
  offset := some 7
  rows := [
    ⟨none, .array [.string "a", .null], .null, none⟩,
    ⟨some "b", .null, .null, none⟩,
    ⟨none, .null, .bool true, some (.ofMembers [("_id", .string "c")])⟩,
    ⟨some "d", .null, .null, none⟩]

/-- Such a body is read without loss. -/
theorem ofJson?_lossless_mixed : ofJson? mixedBody = .ok mixed ∧ Lossless mixedBody mixed := by
  have read : ofJson? mixedBody = .ok mixed := by decide +kernel
  exact ⟨read, ofJson?_lossless read⟩

end ViewResponse

end DocView
