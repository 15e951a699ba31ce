import DocView.Proofs.Store.Views

/-!
Edits of a design document that are stored one after the other. Each finds the id and the revision
under which the one before was stored; edits that are blind to both leave what they would make of
the first document without them.
-/

namespace DocView

/-- Whether a document has exactly this definition under its name. -/
def HasDefinition (document : Option Json) (definition : ViewDefinition) : Prop :=
  (document.bind (·.get? "views")).bind (·.get? definition.name) = some definition.toJson

/-- A document without its id and its revision. -/
def Json.bare : Json → Json
  | .object members => .object ((members.erase "_id").erase "_rev")
  | other => other

namespace Edit

/-- Whether an edit leaves views that can be read, without the definition to be installed. -/
def Spares (definition : ViewDefinition) (edit : Edit) : Prop :=
  ∀ document : Json, document = .object ∅ ∨ document.IsDesignDocument →
    ¬HasDefinition (some document) definition →
      IsProper (some (edit document)) ∧ ¬HasDefinition (some (edit document)) definition

/-- The edit that sets the entry of a view to its definition. -/
def install (definition : ViewDefinition) : Edit :=
  set definition.toJson ["views", definition.name]

/-- The revision that a document carries, if it is there. -/
def carriedRev (document : Option Json) : Option String :=
  document.bind fun document => (document.get? "_rev").bind Json.asString?

/-- What edits leave under an id, stored one after the other and numbered on from a number. -/
def storeAll (id : String) : Nat → List Edit → Option Json → Option Json
  | _, [], document => document
  | number, edit :: later, document =>
    let rev := MemoryStore.revisionAfter (carriedRev document) (number + 1)
    -- The later edits find what was stored.
    storeAll id (number + 1) later
      (some (MemoryStore.stamp id rev (edit (document.getD (.object ∅)))))

end Edit

namespace MemoryStore

/-- A document is stored with the views it has. -/
theorem get?_stamp_views (id rev : String) (document : Json) :
    (stamp id rev document).get? "views" = document.get? "views" := by
  cases document with
  | object members => simp [stamp, Json.get?, Entries.get?_insert]
  | null | bool _ | number _ | string _ | array _ => rfl

/-- A document whose views can be read is stored as one. -/
theorem isProper_stamp {id rev : String} {document : Json} (proper : IsProper (some document)) :
    IsProper (some (stamp id rev document)) := by
  -- Stamping an object leaves an object with the same views.
  obtain ⟨members, rfl, views, held⟩ := proper document rfl
  rintro found ⟨⟩
  refine ⟨_, rfl, views, ?_⟩
  have same := get?_stamp_views id rev (.object members)
  exact same.trans held

end MemoryStore

/-- An installation leaves what the edit of the view makes of a document with its own id. -/
theorem Installs.eq_stamp {design rev : String} {definition : ViewDefinition}
    {before : Option Json} {after : Json} (installs : Installs design definition rev before after)
    (own : ∀ members, before = some (.object members) →
      members.get? "_id" = some (.string design)) :
    after = MemoryStore.stamp design rev
      (Edit.install definition (before.getD (.object ∅))) := by
  -- Both are objects, and are compared member by member.
  cases installs with
  | created =>
    have entry : Edit.install definition (.object ∅) = .object ((∅ : Table Json).insert "views"
        (.ofMembers [(definition.name, definition.toJson)])) := rfl
    rw [Option.getD_none, entry]
    refine congrArg Json.object (Entries.ext_get? fun key => ?_)
    simp only [Table.ofList, List.foldl_cons, List.foldl_nil, Entries.get?_insert]
    grind
  | @merged members views held =>
    have carried := own members rfl
    have entry : Edit.install definition (.object members) = .object (members.insert "views"
        (.object ((views.getD ∅).insert definition.name definition.toJson))) := by
      simp only [Edit.install, Edit.set, Json.members, held]
      cases views <;> rfl
    rw [Option.getD_some, entry]
    refine congrArg Json.object (Entries.ext_get? fun key => ?_)
    simp only [Entries.get?_insert]
    grind

end DocView
