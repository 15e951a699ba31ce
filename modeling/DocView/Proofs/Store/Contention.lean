import DocView.Proofs.Store.Rewriting
import DocView.Proofs.Store.Waiting

/-!
A design document that others write while a view is to be installed in it. Each write that is tried
uses up one waiting writer and one forced conflict at once, so the greater of both numbers tells how
many writes are refused.
-/

namespace DocView

namespace MemoryStore

variable {store later : MemoryStore} {design : String} {definition : ViewDefinition}

/-- How many writes of a document are still refused, whatever revision they name. -/
def trouble (store : MemoryStore) (id : String) : Nat :=
  max store.forcedConflicts (store.editsFor id).length

/-- There is no trouble without a forced conflict and without anybody who waits. -/
theorem trouble_eq_zero_iff {id : String} :
    store.trouble id = 0 ↔ store.forcedConflicts = 0 ∧ store.editsFor id = [] := by
  rw [trouble, ← List.length_eq_zero_iff]
  omega

/-- Whether a design document lacks a definition, and still does when others have written it. -/
structure Vacant (store : MemoryStore) (design : String) (definition : ViewDefinition) : Prop where
  /-- What is stored carries its id and its revision. -/
  stamped : store.Stamped
  /-- The document is absent, or its views can be read. -/
  proper : IsProper (store.document? design)
  /-- The definition is not there. -/
  lacks : ¬HasDefinition (store.document? design) definition
  /-- No writer that waits puts it there, or makes the views unreadable. -/
  spares : ∀ edit ∈ store.editsFor design, edit.Spares definition

/-- A definition that is lacking stays so where nothing is stored and nobody comes or goes. -/
theorem Vacant.of_same (vacant : store.Vacant design definition)
    (documents : later.documents = store.documents) (revisions : later.revisions = store.revisions)
    (writers : later.writers = store.writers) : later.Vacant design definition := by
  -- Both the document and the waiting edits are looked up in what stays the same.
  have stored : later.document? design = store.document? design := by
    rw [document?, documents]
    rfl
  have edits : later.editsFor design = store.editsFor design := by
    rw [editsFor, writers]
    rfl
  -- Each of the four facts looks at the documents, the revisions or the writers alone.
  have evolves : Evolves (fun _ => True) store later := .same documents revisions
  refine ⟨vacant.stamped.evolves evolves, ?_, ?_, ?_⟩
  · rw [stored]
    exact vacant.proper
  · rw [stored]
    exact vacant.lacks
  · rw [edits]
    exact vacant.spares

/-- What is read at the latest revision has the views of what is stored. -/
theorem Held.view?_eq {read : DesignDocument} (held : store.Held design read)
    (stamped : store.Stamped)
    (holds : ∀ document, store.document? design = some document → document.IsObject)
    (latest : read.rev = store.currentRev design) (name : String) :
    read.view? name = ((store.document? design).bind (·.get? "views")).bind (·.get? name) := by
  -- Either nothing is stored and a fresh document was read, or the object that is stored.
  cases given : read.rev with
  | none =>
    rw [given] at latest
    rw [document?_eq_none_of_currentRev stamped holds latest.symm, held.absent given]
    rfl
  | some rev =>
    rw [given] at latest
    obtain ⟨members, stored, carried⟩ := currentRev_eq_some_iff.1 latest.symm
    obtain ⟨views, stands, same⟩ := (held.current rev members given stored carried).views
    rw [stored, DesignDocument.view?, same, Option.bind_some, Json.get?, stands]
    cases views <;> rfl

/-- The design document can be read where a definition is lacking, and then is to be installed. -/
theorem Vacant.read {run : Materializer}
    (vacant : store.Vacant run.design run.request.definition) :
    ∃ read, run.readDocument (store.answer run.documentRead).1 = .ok read ∧
      read.hasDefinition run.request.definition = false ∧ store.Held run.design read ∧
      read.rev = store.currentRev run.design := by
  -- What is read has the views that are stored, so the definition is not among them.
  have holds := isObject_of_isProper vacant.proper
  obtain ⟨read, found, latest, _⟩ := readDocument_of_isProper vacant.stamped vacant.proper
  have held := held_of_readDocument vacant.stamped holds found
  refine ⟨read, found, ?_, held, latest⟩
  rw [DesignDocument.hasDefinition, held.view?_eq vacant.stamped holds latest]
  exact decide_eq_false vacant.lacks

/-- The document that the next edit finds is an empty object or a design document. -/
theorem Vacant.found (vacant : store.Vacant design definition) :
    ((store.document? design).getD (.object ∅) = .object ∅ ∨
      ((store.document? design).getD (.object ∅)).IsDesignDocument) ∧
    ¬HasDefinition (some ((store.document? design).getD (.object ∅))) definition := by
  -- With no document a writer starts from an empty object, and else from what is stored.
  cases stored : store.document? design with
  | none => exact ⟨.inl rfl, by simp [HasDefinition, Json.get?]⟩
  | some document =>
    -- Whatever is stored carries its id and its revision, and the views are well-formed.
    have lacks := vacant.lacks
    rw [stored] at lacks
    obtain ⟨members, rfl, views, held⟩ := vacant.proper document stored
    obtain ⟨own, rev, carried, _⟩ := vacant.stamped _ _ stored members rfl
    refine ⟨.inr ⟨members, rfl, ⟨_, own⟩, .inr (.inr ⟨rev, carried⟩), ?_⟩, lacks⟩
    cases views with
    | none => exact .inl held
    | some views => exact .inr ⟨views, held⟩

/-- The first writer that waits leaves the definition lacking, and a revision of its own. -/
theorem Vacant.runWriter (vacant : store.Vacant design definition) {edit : Edit}
    {edits : List Edit} (waits : store.editsFor design = edit :: edits) :
    (store.runWriter design).Vacant design definition ∧
      (store.runWriter design).editsFor design = edits ∧
      (store.runWriter design).forcedConflicts = store.forcedConflicts ∧
      (store.runWriter design).revisions = store.revisions + 1 ∧
      (store.runWriter design).currentRev design = some (store.nextRev design) ∧
      (store.runWriter design).document? design = some (stamp design (store.nextRev design)
        (edit ((store.document? design).getD (.object ∅)))) := by
  -- The writer is the first of those that spare the definition.
  have spares := vacant.spares
  rw [waits] at spares
  obtain ⟨spare, others⟩ := List.forall_mem_cons.1 spares
  obtain ⟨shape, lacks⟩ := vacant.found
  obtain ⟨proper, lacks⟩ := spare _ shape lacks
  obtain ⟨left, remain, after⟩ := runWriter_of_cons waits
  -- The writer is off the queue, and what it made of the document is stored.
  have stored : (store.runWriter design).document? design = some (stamp design
      (store.nextRev design) (edit ((store.document? design).getD (.object ∅)))) := by
    rw [after, document?_write, if_pos rfl]
    rfl
  have edits_left : (store.runWriter design).editsFor design = edits := by
    rw [after]
    exact remain
  generalize edit ((store.document? design).getD (.object ∅)) = document at *
  have stamped : (store.runWriter design).Stamped := by
    have called : Evolves (fun _ => True) store { store with writers := left } := .same rfl rfl
    rw [after]
    exact (vacant.stamped.evolves called).write design document
  refine ⟨⟨stamped, ?_, ?_, ?_⟩, edits_left, ?_, ?_, ?_, stored⟩
  · rw [stored]
    exact isProper_stamp proper
  · rw [stored, HasDefinition, Option.bind_some, get?_stamp_views]
    exact lacks
  · rw [edits_left]
    exact others
  · rw [after]
    rfl
  · rw [after]
    rfl
  · -- An object carries the revision it is stored under.
    obtain ⟨members, rfl, _⟩ := proper document rfl
    exact currentRev_eq_some_iff.2 ⟨_, stored, get?_stamp_rev design _ members⟩

/-- What a refused write leaves: what one writer made of the document, and one trouble less. -/
structure Refused (store later : MemoryStore) (design : String) : Prop where
  /-- The first writer that waited has written. -/
  document : later.document? design = Edit.storeAll design store.revisions
    ((store.editsFor design).take 1) (store.document? design)
  /-- Its write was counted. -/
  revisions : later.revisions = store.revisions + ((store.editsFor design).take 1).length
  /-- The others wait on. -/
  edits : later.editsFor design = (store.editsFor design).drop 1
  /-- One forced conflict is used up. -/
  forced : later.forcedConflicts = store.forcedConflicts - 1

/-- As long as there is trouble, a write of what was read is refused. -/
theorem Vacant.put_refused (vacant : store.Vacant design definition) {read : DesignDocument}
    (held : store.Held design read) {body : Json} (sent : sentRev body = read.rev)
    (troubled : 0 < store.trouble design) :
    (store.put design body).1.status = 409 ∧
      (store.put design body).2.Vacant design definition ∧
      Refused store (store.put design body).2 design := by
  -- A writer that waits comes first, and a forced conflict counts if nobody waits.
  cases waits : store.editsFor design with
  | nil =>
    -- Nobody waits, so the conflict is forced.
    have behind := runWriter_of_nil waits
    have forced : 0 < store.forcedConflicts := by
      rw [trouble, waits, List.length_nil] at troubled
      omega
    have reason : 0 < (store.runWriter design).forcedConflicts ∨
        sentRev body ≠ (store.runWriter design).currentRev design := by
      rw [behind]
      exact .inl forced
    obtain ⟨status, after⟩ := MemoryStore.put_refused reason
    rw [behind] at after
    rw [after]
    refine ⟨status, vacant.of_same rfl rfl rfl, ?_, ?_, ?_, rfl⟩
    · rw [waits]
      rfl
    · rw [waits]
      rfl
    · rw [waits]
      exact waits
  | cons edit edits =>
    -- The writer leaves a newer revision than the one that was read.
    obtain ⟨behind, remain, forced, counted, current, stored⟩ := vacant.runWriter waits
    have stale : sentRev body ≠ (store.runWriter design).currentRev design := by
      rw [sent, current]
      exact fun same => not_gave_nextRev store design (held.gave _ same)
    obtain ⟨status, after⟩ := MemoryStore.put_refused (.inr stale)
    rw [after]
    refine ⟨status, behind.of_same rfl rfl rfl, ?_, ?_, ?_, ?_⟩
    · rw [waits]
      exact stored
    · rw [waits]
      exact counted
    · rw [waits]
      exact remain
    · exact congrArg (· - 1) forced

/-- Once there is no trouble, a write of what was read sets the view and nothing else. -/
theorem Vacant.put_accepted (vacant : store.Vacant design definition) {read : DesignDocument}
    (held : store.Held design read) (latest : read.rev = store.currentRev design) {body : Json}
    (written : (read.setView definition).toJson = body) (calm : store.trouble design = 0) :
    (store.put design body).1.status = 201 ∧
      (store.put design body).2.document? design = Edit.storeAll design store.revisions
        [Edit.install definition] (store.document? design) := by
  -- Neither a writer nor a forced conflict stands in the way of the latest revision.
  have sent : sentRev body = store.currentRev design := by
    rw [← written, held.sentRev_toJson, latest]
  obtain ⟨unforced, nobody⟩ := trouble_eq_zero_iff.1 calm
  obtain ⟨status, after⟩ := put_of_latest unforced (writerDocument?_eq_none_iff.2 nobody) sent
  -- What is written is what the edit of the view makes of the document, for that has its own id.
  have installs := held.installs vacant.stamped (isObject_of_isProper vacant.proper) definition
    latest
  have own : ∀ members, store.document? design = some (.object members) →
      members.get? "_id" = some (.string design) := by
    intro members stored
    exact (vacant.stamped design _ stored members rfl).1
  refine ⟨status, ?_⟩
  rw [after, document?_write, if_pos rfl, ← written, installs.eq_stamp own]
  rfl

end MemoryStore

end DocView
