import DocView.Config
import DocView.Json.Collation
import DocView.ViewResponse

/-!
A document store held in memory. Every write gives the document a new revision, and a write that does
not name the latest revision is refused. A view exists as soon as its design document has an entry
for it; its rows are given beforehand, and a query selects from them in key order.
-/

namespace DocView

/-- The rows that a query string selects. -/
structure KeyRange where
  /-- The one key to select, which sets both ends aside. -/
  key : Option Json := none
  /-- The key to start from. -/
  startKey : Option Json := none
  /-- The key to end with. -/
  endKey : Option Json := none
  /-- Whether the rows are read from the greatest key to the least. -/
  descending : Bool := false
  /-- The most rows to select. -/
  limit : Option UInt64 := none
deriving DecidableEq

/-- Why a query string selects nothing. -/
inductive KeyRangeError where
  /-- A name or a value is badly coded. -/
  | badCoding (error : Utf8.Error)
  /-- The value of a parameter is not JSON. -/
  | badKey (parameter : String) (error : Json.SyntaxError)
  /-- The limit is no number. -/
  | badLimit (text : String)
  /-- The range ends before it starts, in the direction that the rows are read. -/
  | reversed (descending : Bool)
deriving DecidableEq

/-- The wording of an error. -/
def KeyRangeError.message : KeyRangeError → String
  | badCoding error => error.message
  | badKey parameter error => s!"invalid {parameter}: {error.message}"
  | badLimit text => s!"invalid limit: {quote text}"
  | reversed descending =>
    "No rows can match your key range, reverse your start_key and end_key or set descending="
      ++ Json.truthText (!descending)

namespace KeyRange

/-- Reads the value of a parameter as JSON. -/
def readKey (parameter text : String) : Except KeyRangeError Json :=
  (Json.parse text).mapError (.badKey parameter)

/-- Takes up one parameter; those that select nothing are ignored. -/
def extend (range : KeyRange) (parameter : String × String) : Except KeyRangeError KeyRange :=
  let (name, text) := parameter
  match name with
  | "key" => do return { range with key := some (← readKey name text) }
  | "startkey" => do return { range with startKey := some (← readKey name text) }
  | "endkey" => do return { range with endKey := some (← readKey name text) }
  | "descending" => .ok { range with descending := text = "true" }
  | "limit" =>
    match numeral? text with
    | some limit => .ok { range with limit := some limit }
    | none => .error (.badLimit text)
  | _ => .ok range

/-- Whether the range ends before it starts, in the direction that the rows are read. -/
def isReversed (range : KeyRange) : Bool :=
  match range.startKey, range.endKey with
  | some start, some stop => start.collate stop = if range.descending then .lt else .gt
  | _, _ => false

/-- Reads what a query string selects; of a repeated parameter the last one counts. -/
def ofQuery? (query : String) : Except KeyRangeError KeyRange := do
  let parameters ← (QueryString.parse query).mapError .badCoding
  let range ← parameters.foldlM extend {}
  if range.isReversed then .error (.reversed range.descending) else .ok range

/-- The least key of the range. -/
def low (range : KeyRange) : Option Json :=
  if range.descending then range.endKey else range.startKey

/-- The greatest key of the range. -/
def high (range : KeyRange) : Option Json :=
  if range.descending then range.startKey else range.endKey

/-- Whether a key is selected. -/
def contains (range : KeyRange) (key : Json) : Bool :=
  match range.key with
  -- One key leaves no range to look at.
  | some exact => key.collate exact = .eq
  | none =>
    range.low.all (fun low => key.collate low != .lt)
      && range.high.all (fun high => key.collate high != .gt)

end KeyRange

/-- The key of a row, which is null if the row has none. -/
def rowKey (row : Json) : Json := (row.get? "key").getD .null

/-- The rows in key order; rows of equal keys keep their order. -/
def sortRows (rows : List Json) : List Json :=
  rows.mergeSort fun left right => (rowKey left).collate (rowKey right) != .gt

/-- The rows of a range, in the direction and up to the limit that it asks for. -/
def KeyRange.select (range : KeyRange) (rows : List Json) : List Json :=
  let held := (sortRows rows).filter fun row => range.contains (rowKey row)
  let directed := if range.descending then held.reverse else held
  match range.limit with
  | some limit => directed.take limit.toNat
  | none => directed

/-- The trace that a call leaves in a store. -/
inductive RecordedRequest where
  /-- A view was queried. -/
  | view (path query : String)
  /-- A document was read. -/
  | get (id : String)
  /-- A document was written, or refused, with a status. -/
  | put (id : String) (status : Nat)
deriving DecidableEq

/-- Whether a trace is of a write. -/
def RecordedRequest.isPut : RecordedRequest → Bool
  | put .. => true
  | _ => false

/-- What another writer makes of a document. -/
abbrev Edit := Json → Json

/-- Replaces the whole document. -/
def Edit.replace (document : Json) : Edit := fun _ => document

/-- Sets the member at the end of a path; what is no object on the way becomes one. -/
def Edit.set (value : Json) : List String → Edit
  | [] => fun _ => value
  | key :: path => fun document =>
    let inner := (document.members.get? key).getD .null
    .object (document.members.insert key (Edit.set value path inner))

/-- A document store held in memory. -/
structure MemoryStore where
  /-- The documents under their ids. -/
  documents : Table Json := ∅
  /-- The rows of each view, under its name. -/
  rows : Table (List Json) := ∅
  /-- How many writes are still refused whatever their revision. -/
  forcedConflicts : Nat := 0
  /-- Other writers, each of which comes before the next write of a document. -/
  writers : List (String × Edit) := []
  /-- The calls so far. -/
  requests : List RecordedRequest := []
  /-- How many revisions were given so far. -/
  revisions : Nat := 0

namespace MemoryStore

/-- The number that a revision begins with, which is how many versions it follows. -/
def generation (rev : String) : Nat :=
  let chars := rev.toList
  -- Without the separator there is no number to go by.
  if '-' ∈ chars then
    ((numeral? (String.ofList (chars.takeWhile (· != '-')))).map UInt64.toNat).getD 0
  else 0

/-- A number in hexadecimal digits, filled up with zeros to thirty-two. -/
def token (number : Nat) : List Char :=
  let digits := Nat.toDigits 16 number
  List.replicate (32 - digits.length) '0' ++ digits

/-- The revision that follows another one, told apart from all others by its number. -/
def revisionAfter (previous : Option String) (number : Nat) : String :=
  let next := (previous.map generation).getD 0 + 1
  String.ofList (Nat.toDigits 10 next ++ '-' :: token number)

/-- The latest revision of a document. -/
def currentRev (store : MemoryStore) (id : String) : Option String :=
  (store.documents.get? id).bind fun document => (document.get? "_rev").bind Json.asString?

/-- A document under an id and a revision; only objects hold them. -/
def stamp (id rev : String) : Json → Json
  | .object members => .object ((members.insert "_id" (.string id)).insert "_rev" (.string rev))
  | other => other

/-- Stores a document whatever its revision, and returns the new revision. -/
def write (store : MemoryStore) (id : String) (document : Json) : String × MemoryStore :=
  let number := store.revisions + 1
  let rev := revisionAfter (store.currentRev id) number
  (rev, { store with
    documents := store.documents.insert id (stamp id rev document)
    revisions := number })

/-- The first writer that waits for a document, and the others in their order. -/
def takeWriter? (id : String) : List (String × Edit) → Option (Edit × List (String × Edit))
  | [] => none
  | writer :: others =>
    if writer.1 = id then some (writer.2, others)
    else (takeWriter? id others).map fun (edit, rest) => (edit, writer :: rest)

/-- Lets the first writer that waits for a document write it. -/
def runWriter (store : MemoryStore) (id : String) : MemoryStore :=
  match takeWriter? id store.writers with
  | none => store
  | some (edit, others) =>
    let document := (store.documents.get? id).getD (.object ∅)
    ({ store with writers := others }.write id (edit document)).2

/-- Whether a design document has an entry for a view. -/
def viewExists (store : MemoryStore) (design name : String) : Bool :=
  (((store.documents.get? design).bind (·.get? "views")).bind (·.get? name)).isSome

/-- The failure of a call. -/
def failure (status : Nat) (error reason : String) : Reply :=
  ⟨status, .ofMembers [("error", .string error), ("reason", .string reason)]⟩

/-- The reply of a view that exists to a query string. -/
def answerRows (rows : List Json) (query : String) : Reply :=
  match KeyRange.ofQuery? query with
  | .error error => failure 400 "query_parse_error" error.message
  | .ok range =>
    ⟨200, .ofMembers [("total_rows", .ofCount rows.length), ("offset", .ofCount 0),
      ("rows", .array (range.select rows))]⟩

/-- The reply to a query of a view. -/
def viewReply (store : MemoryStore) (path query : String) : Reply :=
  match splitViewPath? path with
  | none => failure 400 "bad_request" "not a view path"
  | some (design, name) =>
    if store.viewExists design name then answerRows ((store.rows.get? name).getD []) query
    else
      let reason := if store.documents.contains design then "missing_named_view" else "missing"
      ⟨404, (ErrorBody.notFound reason).toJson⟩

/-- The reply to the reading of a document. -/
def documentReply (store : MemoryStore) (id : String) : Reply :=
  match store.documents.get? id with
  | some document => ⟨200, document⟩
  | none => ⟨404, (ErrorBody.notFound "missing").toJson⟩

/-- The revision that a document says it replaces. -/
def sentRev (body : Json) : Option String := (body.get? "_rev").bind Json.asString?

/-- Whether a write is refused, and the store behind that decision. -/
def refuses (store : MemoryStore) (id : String) (body : Json) : Bool × MemoryStore :=
  match store.forcedConflicts with
  -- A forced conflict is used up whether the revision would have fitted or not.
  | left + 1 => (true, { store with forcedConflicts := left })
  | 0 => (sentRev body != store.currentRev id, store)

/-- Writes a document if it names the latest revision, behind the writer that waits for it. -/
def put (store : MemoryStore) (id : String) (body : Json) : Reply × MemoryStore :=
  -- The writer that waits comes first, so the revision sent is compared with the one it leaves.
  match (store.runWriter id).refuses id body with
  | (true, store) => (⟨409, ErrorBody.conflict.toJson⟩, store)
  | (false, store) =>
    let (rev, store) := store.write id body
    (⟨201, .ofMembers [("ok", .bool true), ("id", .string id), ("rev", .string rev)]⟩, store)

/-- Notes a call. -/
def note (store : MemoryStore) (request : RecordedRequest) : MemoryStore :=
  { store with requests := store.requests ++ [request] }

/-- The reply to a call, and the store after it. -/
def reply (store : MemoryStore) : StoreCall → Reply × MemoryStore
  | .queryView path query => (store.viewReply path query, store.note (.view path query))
  | .getDocument id => (store.documentReply id, store.note (.get id))
  | .putDocument id body =>
    let (reply, store) := store.put id body
    (reply, store.note (.put id reply.status))

/-- How the store behaves: it replies to every call. -/
def answer : Behaviour MemoryStore := fun store call =>
  let (reply, store) := store.reply call
  (.ok reply, store)

/-- The document stored under an id. -/
def document? (store : MemoryStore) (id : String) : Option Json := store.documents.get? id

/-- The design document stored under an id, if it is one. -/
def designDocument? (store : MemoryStore) (id : String) : Option DesignDocument :=
  (store.document? id).bind fun document => (DesignDocument.ofJson? document).toOption

/-- Gives a view its rows. -/
def seedRows (store : MemoryStore) (view : String) (rows : List Json) : MemoryStore :=
  { store with rows := store.rows.insert view rows }

/-- Refuses the next writes, so many of them. -/
def forceConflicts (store : MemoryStore) (count : Nat) : MemoryStore :=
  { store with forcedConflicts := count }

/-- Lets another writer come before the next write of a document. -/
def injectWriter (store : MemoryStore) (id : String) (edit : Edit) : MemoryStore :=
  { store with writers := store.writers ++ [(id, edit)] }

/-- How many writes were tried. -/
def putCount (store : MemoryStore) : Nat := store.requests.countP RecordedRequest.isPut

/-- The store as the log shows it. -/
def summary (store : MemoryStore) : String :=
  s!"MemoryStore \x7b document_count: {store.documents.size}, "
    ++ s!"request_count: {store.requests.length} \x7d"

end MemoryStore

end DocView
