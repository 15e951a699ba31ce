import DocView.Json.Decode
import DocView.ViewDefinition

/-!
The document that holds view definitions. Other programs write it as well, so every member that is
not managed here is carried along unchanged.
-/

namespace DocView

/-- What the id of every design document begins with. -/
def designMarker : String := "_design/"

/-- A design document. -/
structure DesignDocument where
  /-- The id under which it is stored. -/
  id : String
  /-- The revision it was read at, or none before it is first stored. -/
  rev : Option String := none
  /-- The entries of its views. -/
  views : Table Json := ∅
  /-- Every other member. -/
  extra : Table Json := ∅
deriving DecidableEq

namespace DesignDocument

/-- A design document that is not stored yet. -/
def fresh (id : String) : DesignDocument := { id }

/-- The entry stored under a name. -/
def view? (document : DesignDocument) (name : String) : Option Json := document.views.get? name

/-- Whether exactly this definition is stored. -/
def hasDefinition (document : DesignDocument) (definition : ViewDefinition) : Bool :=
  document.view? definition.name = some definition.toJson

/-- Stores a definition under its name. -/
def setView (document : DesignDocument) (definition : ViewDefinition) : DesignDocument :=
  { document with views := document.views.insert definition.name definition.toJson }

/-- Reads a design document from an object. -/
def ofJson? : Decoder DesignDocument
  | .object members => do
    let id ← members.decode? "_id" .text
    let rev ← members.decode? "_rev" (Decoder.optional .text)
    let views ← members.decode? "views" .table
    let id ← required "_id" id
    -- What is not managed is what remains without the managed members.
    let extra := ((members.erase "_id").erase "_rev").erase "views"
    return ⟨id, rev.join, views.getD ∅, extra⟩
  | found => .error (.wrongType found "struct DesignDocument")

/-- The object of a design document; an absent revision is left out. -/
def toJson (document : DesignDocument) : Json :=
  let managed := (document.extra.insert "_id" (.string document.id)).insert "views"
    (.object document.views)
  match document.rev with
  | none => .object managed
  | some rev => .object (managed.insert "_rev" (.string rev))

end DesignDocument

end DocView
