import DocView.Proofs.Store.Install
import DocView.Proofs.ViewPath

/-!
Which views a store has. A design document whose views are an object can always be read, and the
installation of one view keeps all the others.
-/

namespace DocView

/-- Whether a document has an entry for a view. -/
def HasView (document : Option Json) (name : String) : Prop :=
  ((document.bind (·.get? "views")).bind (·.get? name)).isSome = true

/-- Whether a design document is absent, or an object whose views are absent or an object. -/
def IsProper (document : Option Json) : Prop :=
  ∀ found, document = some found →
    ∃ members, found = .object members ∧
      ∃ views : Option (Table Json), members.get? "views" = views.map .object

/-- An installation puts the view in and keeps the others. -/
theorem Installs.hasView {design rev : String} {definition : ViewDefinition}
    {before : Option Json} {after : Json} (installs : Installs design definition rev before after) :
    IsProper (some after) ∧ HasView (some after) definition.name ∧
      ∀ name, HasView before name → HasView (some after) name := by
  -- The views are an object behind an installation, whatever they were before.
  cases installs with
  | created =>
    refine ⟨?_, ?_, ?_⟩
    · rintro found ⟨⟩
      refine ⟨_, rfl, some (Table.ofList [(definition.name, definition.toJson)]), ?_⟩
      simp [Table.ofList, Entries.get?_insert]
      rfl
    · simp [HasView, Json.ofMembers, Json.get?, Table.ofList, Entries.get?_insert]
    · intro name absent
      cases absent
  | @merged members views held =>
    -- The new revision is beside the views, and the new view is beside the others.
    have stands : ((members.insert "views" (.object
        ((views.getD ∅).insert definition.name definition.toJson))).insert "_rev"
          (.string rev)).get? "views" =
        some (.object ((views.getD ∅).insert definition.name definition.toJson)) := by
      simp [Entries.get?_insert]
    refine ⟨?_, ?_, ?_⟩
    · rintro found ⟨⟩
      exact ⟨_, rfl, some _, stands⟩
    · simp [HasView, Json.get?, stands, Entries.get?_insert]
    · intro name present
      cases views with
      | none => simp [HasView, Json.get?, held] at present
      | some views =>
        have entry : (views.get? name).isSome = true := by
          simpa [HasView, Json.get?, held] using present
        by_cases same : definition.name = name
        · simp [HasView, Json.get?, Entries.get?_insert, same]
        · simpa [HasView, Json.get?, stands, Entries.get?_insert, same] using entry

namespace MemoryStore

variable {store : MemoryStore} {design : String}

/-- A store has the views that its design documents have. -/
theorem viewExists_iff {name : String} :
    store.viewExists design name = true ↔ HasView (store.document? design) name :=
  Iff.rfl

/-- Whether no view of a design document is lost on the way to a later store. -/
def KeepsViews (design : String) (store later : MemoryStore) : Prop :=
  ∀ name, store.viewExists design name = true → later.viewExists design name = true

/-- No view is lost where no document changes. -/
theorem KeepsViews.of_documents {later : MemoryStore}
    (same : later.documents = store.documents) : KeepsViews design store later := by
  intro name present
  rw [viewExists, same]
  exact present

/-- Views that are kept on the way, and then again, are kept. -/
theorem KeepsViews.trans {middle later : MemoryStore} (first : KeepsViews design store middle)
    (second : KeepsViews design middle later) : KeepsViews design store later := by
  intro name present
  exact second name (first name present)

/-- Only objects are stored where the design document is proper. -/
theorem isObject_of_isProper (proper : IsProper (store.document? design)) :
    ∀ document, store.document? design = some document → document.IsObject := by
  intro document stored
  obtain ⟨members, same, _⟩ := proper document stored
  exact ⟨members, same⟩

/-- A proper design document is read with its latest revision and all its views. -/
theorem readDocument_of_isProper {run : Materializer} (stamped : store.Stamped)
    (proper : IsProper (store.document? run.design)) :
    ∃ read, run.readDocument (store.answer run.documentRead).1 = .ok read ∧
      read.rev = store.currentRev run.design ∧
      ∀ name, (read.view? name).isSome = true → HasView (store.document? run.design) name := by
  -- What is stored, if anything, is an object whose views are well-formed.
  have reply : (store.answer run.documentRead).1 = .ok (store.documentReply run.design) := rfl
  rw [reply]
  cases stored : store.document? run.design with
  | none =>
    -- An absent document is read as a fresh one.
    have absent : store.documents.get? run.design = none := stored
    refine ⟨.fresh run.design, ?_, ?_, ?_⟩
    · simp [Materializer.readDocument, Materializer.documentOf, documentReply, absent]
    · simp [currentRev, absent, DesignDocument.fresh]
    · intro name present
      simp [DesignDocument.view?, DesignDocument.fresh] at present
  | some document =>
    obtain ⟨members, rfl, views, held⟩ := proper document stored
    obtain ⟨own, rev, carried, _⟩ := stamped _ _ stored members rfl
    -- All that is managed is well-typed, so the document is decoded.
    have decoded : DesignDocument.ofJson? (.object members) = .ok ⟨run.design, some rev,
        views.getD ∅, ((members.erase "_id").erase "_rev").erase "views"⟩ := by
      refine DesignDocument.ofJson?_object_iff.2 ⟨own, ⟨some (some rev), carried, rfl⟩,
        ⟨views, held, rfl⟩, rfl⟩
    have present : store.documents.get? run.design = some (.object members) := stored
    refine ⟨⟨run.design, some rev, views.getD ∅,
      ((members.erase "_id").erase "_rev").erase "views"⟩, ?_, ?_, ?_⟩
    · simp [Materializer.readDocument, Materializer.documentOf, documentReply, present, decoded]
    · exact (currentRev_eq_some_iff.2 ⟨members, stored, carried⟩).symm
    · intro name entry
      cases views with
      | none => simp [DesignDocument.view?] at entry
      | some views => simpa [HasView, Json.get?, held, DesignDocument.view?] using entry

section Lookup

variable {path query name : String} (addressed : splitViewPath? path = some (design, name))

include addressed

/-- A view that is there replies to the query string. -/
theorem viewReply_of_present (present : store.viewExists design name = true) (query : String) :
    store.viewReply path query = answerRows ((store.rows.get? name).getD []) query := by
  rw [viewReply, addressed]
  exact if_pos present

/-- A view that is there is not answered to be missing. -/
theorem status_ne_of_viewExists (present : store.viewExists design name = true) :
    (store.answer (.queryView path query)).1.status? ≠ some 404 := by
  -- A view that is there is answered by rows, or by a query that is badly written.
  have answered : (store.answer (.queryView path query)).1.status? =
      some (store.viewReply path query).status := rfl
  rw [answered, viewReply_of_present addressed present, answerRows]
  split <;> simp [failure]

/-- A view that is not there is answered to be missing, with or without its design document. -/
theorem tellsMissing_of_not_viewExists (absent : store.viewExists design name = false) :
    Materializer.TellsMissing (store.answer (.queryView path query)).1 := by
  -- The path is taken apart into the document and the name under which nothing is held.
  have answered : (store.answer (.queryView path query)).1 = .ok (store.viewReply path query) := rfl
  rw [answered, viewReply, addressed]
  simp only [absent, Bool.false_eq_true, if_false]
  -- The reason depends on whether the document is there, and the status does not.
  split
  · exact ⟨rfl, by decide⟩
  · exact ⟨rfl, by decide⟩

end Lookup

/-- A run whose view is not there is told that it is missing. -/
theorem tellsMissing_of_lacking {run : Materializer} {name : String}
    (addressed : splitViewPath? run.request.path = some (design, name))
    (lacks : ¬HasView (store.document? design) name) :
    Materializer.TellsMissing (store.answer run.viewQuery).1 := by
  refine tellsMissing_of_not_viewExists addressed ?_
  rw [← viewExists_iff] at lacks
  exact Bool.eq_false_iff.2 lacks

section Install

variable {read : DesignDocument}

/-- A write of what is still stored goes through, puts the view in and keeps the others. -/
theorem Held.operate_of_latest (held : store.Held design read) (calm : store.Calm)
    (stamped : store.Stamped) (proper : IsProper (store.document? design))
    (definition : ViewDefinition) (latest : read.rev = store.currentRev design) {body : Json}
    (written : (read.setView definition).toJson = body) :
    (store.answer (.putDocument design body)).1.status? = some 201 ∧
      IsProper ((store.operate (.call (.putDocument design body))).document? design) ∧
      (store.operate (.call (.putDocument design body))).viewExists design definition.name = true ∧
      KeepsViews design store (store.operate (.call (.putDocument design body))) := by
  -- The revision is the latest, so the calm store accepts what was made from the reading.
  have sent : sentRev body = store.currentRev design := by
    rw [← written, held.sentRev_toJson, latest]
  obtain ⟨status, after⟩ := calm.put_accepted sent
  have installs := held.installs stamped (isObject_of_isProper proper) definition latest
  rw [written] at installs
  obtain ⟨shape, own, others⟩ := installs.hasView
  -- The trace of the call changes no document.
  have stored : (store.operate (.call (.putDocument design body))).document? design =
      some (stamp design (store.nextRev design) body) := by
    change (store.put design body).2.document? design = _
    rw [after, document?_write, if_pos rfl]
  refine ⟨congrArg some status, ?_, ?_, ?_⟩
  · rw [stored]
    exact shape
  · rw [viewExists_iff, stored]
    exact own
  · intro name present
    rw [viewExists_iff, stored]
    exact others name present

/-- A write of what is no longer stored is refused, and changes no document. -/
theorem Held.operate_of_stale (held : store.Held design read) (calm : store.Calm)
    (definition : ViewDefinition) (stale : read.rev ≠ store.currentRev design) {body : Json}
    (written : (read.setView definition).toJson = body) :
    (store.answer (.putDocument design body)).1.status? = some 409 ∧
      (store.operate (.call (.putDocument design body))).documents = store.documents := by
  -- The write names a revision that is not the latest one.
  have sent : sentRev body ≠ store.currentRev design := by
    rw [← written, held.sentRev_toJson]
    exact stale
  obtain ⟨status, after⟩ := calm.put_refused sent
  refine ⟨congrArg some status, ?_⟩
  change (store.put design body).2.documents = _
  rw [after]

end Install

end MemoryStore

end DocView
