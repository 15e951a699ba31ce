import DocView.Proofs.DesignDocument
import DocView.Proofs.Materializer.Session
import DocView.Proofs.Store.Operation

/-!
The installation of a view, between the reading of its design document and the write. A revision is
never given twice, so a write goes through only if the document is still the one that was read; and
then it changes the view and the revision alone.
-/

namespace DocView

/-- How the document under an id changes when a definition is installed under a new revision. -/
inductive Installs (design : String) (definition : ViewDefinition) (rev : String) :
    Option Json → Json → Prop where
  /-- A document that was not there yet has the definition alone. -/
  | created :
    Installs design definition rev none
      (.ofMembers [("_id", .string design), ("_rev", .string rev),
        ("views", .ofMembers [(definition.name, definition.toJson)])])
  /-- A document that was there keeps its members, and its views keep their entries. -/
  | merged {members : Table Json} {views : Option (Table Json)}
    (held : members.get? "views" = views.map .object) :
    Installs design definition rev (some (.object members))
      (.object ((members.insert "views" (.object
        ((views.getD ∅).insert definition.name definition.toJson))).insert "_rev" (.string rev)))

namespace MemoryStore

/-- Whether a document is what a store held or still holds under an id. -/
structure Held (store : MemoryStore) (design : String) (read : DesignDocument) : Prop where
  /-- The document carries the id. -/
  id : read.id = design
  /-- A document without a revision is one that was not there. -/
  absent : read.rev = none → read = .fresh design
  /-- A revision was given by the store. -/
  gave : ∀ rev, read.rev = some rev → store.Gave rev
  /-- As long as the revision is the latest one, the document is what is stored. -/
  current : ∀ rev members, read.rev = some rev → store.document? design = some (.object members) →
    members.get? "_rev" = some (.string rev) → DesignDocument.ReadFrom members read

variable {store later : MemoryStore} {design : String} {read : DesignDocument}

/-- What a run reads is what the store holds. -/
theorem held_of_readDocument {run : Materializer} (stamped : store.Stamped)
    (holds : ∀ document, store.document? run.design = some document → document.IsObject)
    (found : run.readDocument (store.answer run.documentRead).1 = .ok read) :
    store.Held run.design read := by
  -- What was read is what the store holds, and the store says how that is marked.
  have answered : (store.answer run.documentRead).1 = .ok (store.documentReply run.design) := rfl
  obtain ⟨reply, replied, brought⟩ := Materializer.of_readDocument found
  rw [answered] at replied
  cases replied
  -- Either nothing is stored, or an object with its own id and a revision that was given.
  cases stored : store.document? run.design with
  | none =>
    have body : (store.documentReply run.design).status = 404 := by
      have none : store.documents.get? run.design = none := stored
      simp [documentReply, none]
    rcases brought with ⟨_, rfl⟩ | ⟨status, _⟩
    · refine ⟨rfl, fun _ => rfl, ?_, ?_⟩
      · intro rev given
        cases given
      · intro rev members given
        cases given
    · simp [body] at status
  | some document =>
    have body : store.documentReply run.design = ⟨200, document⟩ := by
      have some : store.documents.get? run.design = some document := stored
      simp [documentReply, some]
    obtain ⟨members, rfl⟩ := holds _ stored
    obtain ⟨own, rev, carried, gave⟩ := stamped _ _ stored members rfl
    have decoded : DesignDocument.ofJson? (.object members) = .ok read := by
      rcases brought with ⟨status, _⟩ | ⟨_, decoded⟩
      · simp [body] at status
      · simpa [body] using decoded
    have from_members := DesignDocument.ofJson?_object_iff.1 decoded
    -- What is stored carries its id and a revision, so what is read does.
    have id : read.id = run.design := by
      have both := from_members.id.symm.trans own
      simpa using both
    have revision : read.rev = some rev := by
      obtain ⟨either, stands, joined⟩ := from_members.rev
      rw [carried] at stands
      rcases either with _ | _ | text <;> simp at stands
      rw [joined, stands]
      rfl
    refine ⟨id, ?_, ?_, ?_⟩
    · intro none
      rw [revision] at none
      cases none
    · intro given same
      rw [revision] at same
      cases same
      exact gave
    · intro given others same there latest
      rw [stored] at there
      cases there
      exact from_members

/-- What was held stays so, for whatever is stored later gets a revision of its own. -/
theorem Held.evolves {allowed : Json → Prop} (held : store.Held design read)
    (evolves : Evolves allowed store later) : later.Held design read := by
  -- Documents change by writes only, so one write is looked at.
  induction evolves with
  | same documents revisions =>
    refine ⟨held.id, held.absent, ?_, ?_⟩
    · intro rev given
      exact (held.gave rev given).mono (Nat.le_of_eq revisions.symm)
    · intro rev members given stored latest
      rw [document?, documents] at stored
      exact held.current rev members given stored latest
  | @write store id document fits =>
    refine ⟨held.id, held.absent, ?_, ?_⟩
    · intro rev given
      exact (held.gave rev given).mono (Nat.le_succ _)
    · intro rev members given stored latest
      rw [document?_write] at stored
      split at stored
      · -- The document was stored anew, under a revision that differs from the one read.
        cases document with
        | object sent =>
          have carried := get?_stamp_rev id (store.nextRev id) sent
          rw [Option.some.inj stored] at carried
          have same : rev = store.nextRev id := by
            have both : some (Json.string rev) = some (.string (store.nextRev id)) :=
              latest.symm.trans carried
            simpa using both
          rw [same] at given
          exact absurd (held.gave _ given) (not_gave_nextRev store id)
        | null | bool _ | number _ | string _ | array _ => cases stored
      · exact held.current rev members given stored latest
  | trans first second ihFirst ihSecond => exact ihSecond (ihFirst held)

/-- What was held is written back to the document that it was read from. -/
theorem Held.call_installing (held : store.Held design read) (run : Materializer)
    (remaining : Nat) :
    run.call (.installing (read.setView run.request.definition) remaining) =
      .putDocument design (read.setView run.request.definition).toJson := by
  -- The document is written under the id that it carries.
  rw [← held.id]
  rfl

/-- What is written back carries the revision that was read. -/
theorem Held.sentRev_toJson (held : store.Held design read) (definition : ViewDefinition) :
    sentRev (read.setView definition).toJson = read.rev := by
  -- A revision is put in last, and a fresh document has no member that could pass for one.
  cases given : read.rev with
  | none =>
    rw [held.absent given]
    simp [sentRev, DesignDocument.toJson, DesignDocument.setView, DesignDocument.fresh, Json.get?,
      Entries.get?_insert]
  | some rev =>
    have same : (read.setView definition).rev = some rev := given
    simp [sentRev, DesignDocument.toJson, same, Json.get?, Entries.get?_insert, Json.asString?]

/-- Among objects, the latest revision is the one that a stored document carries. -/
theorem currentRev_eq_some_iff {id rev : String} :
    store.currentRev id = some rev ↔
      ∃ members, store.document? id = some (.object members) ∧
        members.get? "_rev" = some (.string rev) := by
  -- Only an object has members, and only a text is a revision.
  unfold currentRev document?
  cases stored : store.documents.get? id with
  | none => simp
  | some document =>
    cases document with
    | object members =>
      cases carried : members.get? "_rev" with
      | none => simp [Json.get?, carried]
      | some value => cases value <;> simp [Json.get?, carried, Json.asString?]
    | null | bool _ | number _ | string _ | array _ => simp [Json.get?]

/-- Nothing is stored where there is no latest revision. -/
theorem document?_eq_none_of_currentRev {id : String} (stamped : store.Stamped)
    (holds : ∀ document, store.document? id = some document → document.IsObject)
    (nothing : store.currentRev id = none) :
    store.document? id = none := by
  -- A stored object would carry a revision.
  cases stored : store.document? id with
  | none => rfl
  | some document =>
    obtain ⟨members, rfl⟩ := holds document stored
    obtain ⟨own, rev, carried, gave⟩ := stamped id _ stored members rfl
    have latest := currentRev_eq_some_iff.2 ⟨members, stored, carried⟩
    rw [nothing] at latest
    cases latest

/-- A write that names the latest revision changes the view and the revision alone. -/
theorem Held.installs (held : store.Held design read) (stamped : store.Stamped)
    (holds : ∀ document, store.document? design = some document → document.IsObject)
    (definition : ViewDefinition)
    (latest : read.rev = store.currentRev design) :
    Installs design definition (store.nextRev design) (store.document? design)
      (stamp design (store.nextRev design) (read.setView definition).toJson) := by
  -- The document is compared member by member with the one that was read.
  cases given : read.rev with
  | none =>
    rw [given] at latest
    rw [document?_eq_none_of_currentRev stamped holds latest.symm, held.absent given]
    have written : stamp design (store.nextRev design)
        ((DesignDocument.fresh design).setView definition).toJson =
        .ofMembers [("_id", .string design), ("_rev", .string (store.nextRev design)),
          ("views", .ofMembers [(definition.name, definition.toJson)])] := by
      have entry : Json.ofMembers [(definition.name, definition.toJson)] =
          .object ((∅ : Table Json).insert definition.name definition.toJson) := rfl
      rw [entry]
      refine congrArg Json.object (Entries.ext_get? fun key => ?_)
      simp only [DesignDocument.setView, DesignDocument.fresh, Table.ofList, List.foldl_cons,
        List.foldl_nil, Entries.get?_insert]
      grind
    rw [written]
    exact .created
  | some rev =>
    rw [given] at latest
    obtain ⟨members, stored, carried⟩ := currentRev_eq_some_iff.1 latest.symm
    have read_from := held.current rev members given stored carried
    obtain ⟨own, _⟩ := stamped design _ stored members rfl
    obtain ⟨views, stands, views_read⟩ := read_from.views
    have written : stamp design (store.nextRev design) (read.setView definition).toJson =
        .object ((members.insert "views" (.object
          ((views.getD ∅).insert definition.name definition.toJson))).insert "_rev"
            (.string (store.nextRev design))) := by
      have kept : DesignDocument.withoutNullRev members = members := by
        simp [DesignDocument.withoutNullRev, carried]
      have body : (read.setView definition).toJson = .object (members.insert "views" (.object
          ((views.getD ∅).insert definition.name definition.toJson))) := by
        rw [DesignDocument.setView, DesignDocument.toJson_of_readFrom read_from, kept, views_read]
      rw [body]
      -- The id is the one that the document carries already.
      refine congrArg Json.object (Entries.ext_get? fun key => ?_)
      simp only [Entries.get?_insert]
      grind
    rw [stored, written]
    exact .merged stands

/-- Nobody waits for a document if a write of what was read names the latest revision. -/
theorem Held.runWriter_eq (held : store.Held design read)
    (objects : ∀ document, store.writerDocument? design = some document → document.IsObject)
    (latest : read.rev = (store.runWriter design).currentRev design) :
    store.runWriter design = store := by
  -- If a writer waited, the revision that was read would not be the latest any more.
  cases waits : store.writerDocument? design with
  | none => exact runWriter_of_none waits
  | some document =>
    -- The writer leaves a revision that is newer than the one read.
    obtain ⟨members, rfl⟩ := objects document waits
    obtain ⟨others, behind⟩ := runWriter_of_some waits
    have newer : (store.runWriter design).currentRev design = some (store.nextRev design) := by
      refine currentRev_eq_some_iff.2 ⟨_, ?_, get?_stamp_rev design (store.nextRev design) members⟩
      rw [behind, document?_write, if_pos rfl]
      rfl
    rw [newer] at latest
    exact absurd (held.gave _ latest) (not_gave_nextRev store design)

/-- A write of what was read goes through only if nothing came in between. -/
theorem Held.put_accepted (held : store.Held design read) {body : Json}
    (sent : sentRev body = read.rev)
    (objects : ∀ document, store.writerDocument? design = some document → document.IsObject)
    (accepted : (store.put design body).1.status = 201) :
    read.rev = store.currentRev design ∧ (store.put design body).2 = (store.write design body).2 := by
  -- A write that goes through names the latest revision, so nobody wrote before it.
  have result := put_result store design body
  generalize store.put design body = after at result accepted
  cases result with
  | refused status stale fewer => simp [status] at accepted
  | accepted status calm latest =>
    have alone := held.runWriter_eq objects (sent.symm.trans latest)
    rw [alone] at latest ⊢
    exact ⟨sent.symm.trans latest, rfl⟩

/-- A write of what was read that goes through installs the definition, and touches nothing else. -/
theorem Held.put_installs (held : store.Held design read) (stamped : store.Stamped)
    (holds : ∀ document, store.document? design = some document → document.IsObject)
    (definition : ViewDefinition)
    (objects : ∀ document, store.writerDocument? design = some document → document.IsObject)
    (accepted : (store.put design (read.setView definition).toJson).1.status = 201) :
    ∃ rev document, ¬store.Gave rev ∧
      Installs design definition rev (store.document? design) document ∧
      (store.put design (read.setView definition).toJson).2.document? design = some document ∧
      ∀ id, id ≠ design →
        (store.put design (read.setView definition).toJson).2.document? id = store.document? id := by
  -- What goes through is a write to the store as it is, behind nobody.
  have sent := held.sentRev_toJson definition
  obtain ⟨latest, after⟩ := held.put_accepted sent objects accepted
  have installs := held.installs stamped holds definition latest
  refine ⟨store.nextRev design, _, not_gave_nextRev store design, installs, ?_, ?_⟩
  · rw [after, document?_write, if_pos rfl]
  · intro id differ
    rw [after, document?_write, if_neg (Ne.symm differ)]

/-- A write that is refused changes no document for which nobody waits. -/
theorem document?_put_of_refused {id wanted : String} {body : Json}
    (refused : (store.put id body).1.status ≠ 201) (nobody : store.writerDocument? wanted = none) :
    (store.put id body).2.document? wanted = store.document? wanted := by
  -- A refused write stores nothing, and the writer before it stores another document.
  have behind : (store.runWriter id).document? wanted = store.document? wanted := by
    cases waits : store.writerDocument? id with
    | none => rw [runWriter_of_none waits]
    | some document =>
      -- Somebody waits for the document that is written, so that is not the one in question.
      obtain ⟨others, after⟩ := runWriter_of_some waits
      have differ : id ≠ wanted := by
        rintro rfl
        rw [nobody] at waits
        cases waits
      rw [after, document?_write, if_neg differ]
      rfl
  have result := put_result store id body
  generalize store.put id body = after at result refused
  cases result with
  | refused status stale fewer => exact behind
  | accepted status calm latest => exact absurd status refused

/-- A call that writes nothing is neither accepted nor refused as a write, and changes no document. -/
theorem status_ne_of_not_isWrite (store : MemoryStore) {call : StoreCall}
    (reads : call.isWrite = false) :
    (store.answer call).1.status? ≠ some 201 ∧ (store.answer call).1.status? ≠ some 409 ∧
      (store.answer call).2.documents = store.documents := by
  -- Readings and queries are answered by statuses of their own.
  cases call with
  | putDocument id body => cases reads
  | getDocument id =>
    have answered : (store.answer (.getDocument id)).1.status? =
        some (store.documentReply id).status := rfl
    rw [answered, documentReply]
    split <;> simp <;> rfl
  | queryView path query =>
    have answered : (store.answer (.queryView path query)).1.status? =
        some (store.viewReply path query).status := rfl
    rw [answered, viewReply]
    unfold answerRows
    repeat' split
    all_goals simp [failure]
    all_goals rfl

end MemoryStore

end DocView
