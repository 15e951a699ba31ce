import DocView.Json.Decode
import DocView.ViewName

/-!
What a view indexes, and the definition that a store is given for it. A document belongs to a view
if its type is the view's, or if its id begins with that type and a slash.
-/

namespace DocView

/-- A reduction that stores have built in. -/
inductive Reducer where
  /-- The number of rows. -/
  | count
  /-- The sum, least, greatest and number of numeric values. -/
  | stats
deriving DecidableEq

/-- The name of a reduction. -/
def Reducer.name : Reducer → String
  | count => "_count"
  | stats => "_stats"

/-- The value of a reduction. -/
def Reducer.toJson (reducer : Reducer) : Json := .string reducer.name

/-- The reduction of a name. -/
def Reducer.ofName? (name : String) : Except DecodeError Reducer :=
  if name = count.name then .ok count
  else if name = stats.name then .ok stats
  else .error (.unknownVariant name "`_count` or `_stats`")

/-- Reads a reduction from its name, or from an object that holds null under it. -/
def Reducer.ofJson? : Decoder Reducer
  | .string name => ofName? name
  | .object members =>
    match members.toList with
    | [(name, payload)] => do
      let reducer ← ofName? name
      if payload = .null then .ok reducer else .error (.wrongType payload "unit")
    | _ => .error (.wrongValue (.object members) "map with a single key")
  | found => .error (.wrongType found "string or map")

/-- What a view indexes. -/
structure ViewShape where
  /-- The type of the documents. -/
  documentType : String
  /-- The fields that make up the key. -/
  fields : List String
  /-- Whether a row holds its document instead of the number one. -/
  includeDocs : Bool
deriving DecidableEq

/-- A text as the source of a function quotes it. -/
def literal (text : String) : String := (Json.string text).text

namespace ViewShape

/-- The reduction that goes with a shape: only numbers can be summed, so documents are counted. -/
def reducer (shape : ViewShape) : Reducer :=
  if shape.includeDocs then .count else .stats

/-- The source of one component of the key, which is null where the document lacks the field. -/
def componentSource (field : String) : String :=
  s!"doc[{literal field}] === undefined ? null : doc[{literal field}]"

/-- The source of the function that emits the rows of a document. -/
def mapSource (shape : ViewShape) : String :=
  let key := ", ".intercalate (shape.fields.map componentSource)
  let value := if shape.includeDocs then "doc" else "1"
  let start := literal (shape.documentType ++ "/")
  "function (doc) \x7b\n"
    ++ s!"  if (doc.type === {literal shape.documentType} || "
    ++ s!"(typeof doc._id === \"string\" && doc._id.indexOf({start}) === 0)) \x7b\n"
    ++ s!"    emit([{key}], {value});\n"
    ++ "  \x7d\n\x7d"

end ViewShape

/-- A view as a design document defines it. -/
structure ViewDefinition where
  /-- The name of the view. -/
  name : String
  /-- The source of the function that emits its rows. -/
  mapSource : String
  /-- The reduction of its rows. -/
  reducer : Reducer
deriving DecidableEq

namespace ViewDefinition

/-- The definition that a shape needs. -/
def ofShape (name : String) (shape : ViewShape) : ViewDefinition :=
  ⟨name, shape.mapSource, shape.reducer⟩

/-- The entry of a definition in a design document. -/
def toJson (definition : ViewDefinition) : Json :=
  .ofMembers [("map", .string definition.mapSource), ("reduce", definition.reducer.toJson)]

end ViewDefinition

end DocView
