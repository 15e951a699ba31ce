import DocView.Proofs.Store.Revision

/-!
The operations on a store held in memory, one at a time, and what they keep: a stored object always
carries its own id and a revision that the store gave.
-/

namespace DocView.MemoryStore

/-- What is done to a store in one piece. -/
inductive Operation where
  /-- A call is made. -/
  | call (call : StoreCall)
  /-- A document is stored whatever its revision. -/
  | insert (id : String) (document : Json)
  /-- A view is given its rows. -/
  | seed (view : String) (rows : List Json)
  /-- So many writes are to be refused. -/
  | force (count : Nat)
  /-- Another writer is to come before the next write of a document. -/
  | inject (id : String) (edit : Edit)

/-- The store after an operation. -/
def operate (store : MemoryStore) : Operation → MemoryStore
  | .call call => (MemoryStore.answer store call).2
  | .insert id document => (store.write id document).2
  | .seed view rows => store.seedRows view rows
  | .force count => store.forceConflicts count
  | .inject id edit => store.injectWriter id edit

/-- The store that operations leave, one after the other, where nothing was stored before. -/
def ofHistory (history : List Operation) : MemoryStore := history.foldl operate {}

/-- What the writer that waits for a document makes of it. -/
def writerDocument? (store : MemoryStore) (id : String) : Option Json :=
  (takeWriter? id store.writers).map fun writer =>
    writer.1 ((store.document? id).getD (.object ∅))

/-- Without a writer that waits, nothing comes before a write. -/
theorem runWriter_of_none {store : MemoryStore} {id : String}
    (nobody : store.writerDocument? id = none) : store.runWriter id = store := by
  have alone : takeWriter? id store.writers = none := by simpa [writerDocument?] using nobody
  simp [runWriter, alone]

/-- The writer that waits stores what it makes of the document, and waits no longer. -/
theorem runWriter_of_some {store : MemoryStore} {id : String} {document : Json}
    (waits : store.writerDocument? id = some document) :
    ∃ others, store.runWriter id = ({ store with writers := others }.write id document).2 := by
  obtain ⟨⟨edit, others⟩, taken, made⟩ := Option.map_eq_some_iff.1 waits
  refine ⟨others, ?_⟩
  simp only [document?] at made
  simp [runWriter, taken, made]

/-- What becomes of a write, in terms of the store that the waiting writer leaves. -/
inductive PutResult (store : MemoryStore) (id : String) (body : Json) :
    Reply × MemoryStore → Prop where
  /-- The write is refused, and only a forced conflict may be used up. -/
  | refused {left : Nat} {reply : Reply} (status : reply.status = 409)
    (stale : 0 < store.forcedConflicts ∨ sentRev body ≠ store.currentRev id)
    (fewer : left ≤ store.forcedConflicts) :
    PutResult store id body (reply, { store with forcedConflicts := left })
  /-- The write names the latest revision, and goes through. -/
  | accepted {reply : Reply} (status : reply.status = 201) (calm : store.forcedConflicts = 0)
    (latest : sentRev body = store.currentRev id) :
    PutResult store id body (reply, (store.write id body).2)

/-- A write is refused or goes through, behind the writer that waits. -/
theorem put_result (store : MemoryStore) (id : String) (body : Json) :
    PutResult (store.runWriter id) id body (store.put id body) := by
  -- A forced conflict comes first, and without one the revisions are compared.
  unfold put refuses
  generalize store.runWriter id = store
  cases forced : store.forcedConflicts with
  | succ left => exact .refused rfl (.inl (by omega)) (by omega)
  | zero =>
    by_cases latest : sentRev body = store.currentRev id
    · simp only [latest, bne_self_eq_false]
      exact .accepted rfl forced latest
    · simp only [bne_iff_ne.2 latest]
      have same : { store with forcedConflicts := 0 } = store := by rw [← forced]
      rw [← same]
      exact .refused rfl (.inr latest) (Nat.zero_le _)

/-- A write that is refused by force, or for its revision, uses up one forced conflict. -/
theorem put_refused {store : MemoryStore} {id : String} {body : Json}
    (reason : 0 < (store.runWriter id).forcedConflicts ∨
      sentRev body ≠ (store.runWriter id).currentRev id) :
    (store.put id body).1.status = 409 ∧
      (store.put id body).2 = { store.runWriter id with
        forcedConflicts := (store.runWriter id).forcedConflicts - 1 } := by
  -- Both reasons are looked at in one decision, which uses up a forced conflict if there is one.
  have decided : (store.runWriter id).refuses id body = (true, { store.runWriter id with
      forcedConflicts := (store.runWriter id).forcedConflicts - 1 }) := by
    unfold refuses
    generalize store.runWriter id = store at *
    cases forced : store.forcedConflicts with
    | succ left => rfl
    | zero =>
      -- There is no forced conflict to use up, so the revision is the reason.
      have stale : sentRev body ≠ store.currentRev id := by
        rcases reason with some_left | stale
        · omega
        · exact stale
      have unused : { store with forcedConflicts := 0 } = store := by rw [← forced]
      exact Prod.ext (bne_iff_ne.2 stale) unused.symm
  rw [put, decided]
  exact ⟨rfl, rfl⟩

/-- A write of the latest revision goes through, if nothing is forced and nobody comes before it. -/
theorem put_of_latest {store : MemoryStore} {id : String} {body : Json}
    (unforced : store.forcedConflicts = 0) (nobody : store.writerDocument? id = none)
    (latest : sentRev body = store.currentRev id) :
    (store.put id body).1.status = 201 ∧ (store.put id body).2 = (store.write id body).2 := by
  -- The write is compared with what is stored now, for nobody changes that.
  have result := put_result store id body
  rw [runWriter_of_none nobody] at result
  generalize store.put id body = after at result
  cases result with
  | refused status stale fewer =>
    rcases stale with forced | stale
    · omega
    · exact absurd latest stale
  | accepted status _ _ => exact ⟨status, rfl⟩

/-- Whether no write is to be refused and nobody waits to write. -/
structure Calm (store : MemoryStore) : Prop where
  /-- No write is to be refused whatever its revision. -/
  unforced : store.forcedConflicts = 0
  /-- Nobody waits to write. -/
  alone : store.writers = []

section Calm

variable {store : MemoryStore} {id : String} {body : Json}

/-- Where nobody waits, nothing comes before a write. -/
theorem Calm.writerDocument? (calm : store.Calm) (id : String) :
    store.writerDocument? id = none := by
  simp [MemoryStore.writerDocument?, calm.alone, takeWriter?]

/-- A calm store accepts a write exactly under the latest revision. -/
theorem Calm.put_accepted (calm : store.Calm) (latest : sentRev body = store.currentRev id) :
    (store.put id body).1.status = 201 ∧ (store.put id body).2 = (store.write id body).2 :=
  put_of_latest calm.unforced (calm.writerDocument? id) latest

/-- A calm store refuses a write under any other revision, and stays as it is. -/
theorem Calm.put_refused (calm : store.Calm) (stale : sentRev body ≠ store.currentRev id) :
    (store.put id body).1.status = 409 ∧ (store.put id body).2 = store := by
  -- With no conflict to use up, a refusal changes nothing.
  have behind := runWriter_of_none (calm.writerDocument? id)
  have reason : 0 < (store.runWriter id).forcedConflicts ∨
      sentRev body ≠ (store.runWriter id).currentRev id := by
    rw [behind]
    exact .inr stale
  obtain ⟨status, after⟩ := MemoryStore.put_refused reason
  have none_left : store.forcedConflicts - 1 = store.forcedConflicts := by
    have unforced := calm.unforced
    omega
  refine ⟨status, ?_⟩
  rw [after, behind, none_left]

/-- A calm store stays calm whatever it is called. -/
theorem Calm.call (calm : store.Calm) (call : StoreCall) : (store.operate (.call call)).Calm := by
  -- A write may use up a forced conflict or a writer, and there are none.
  cases call with
  | queryView path query => exact ⟨calm.unforced, calm.alone⟩
  | getDocument id => exact ⟨calm.unforced, calm.alone⟩
  | putDocument id body =>
    have decided : (store.put id body).2.Calm := by
      by_cases latest : sentRev body = store.currentRev id
      · rw [(calm.put_accepted latest).2]
        exact ⟨calm.unforced, calm.alone⟩
      · rw [(calm.put_refused latest).2]
        exact calm
    exact ⟨decided.unforced, decided.alone⟩

end Calm

/-- What is stored in an operation, by whoever stores it. -/
inductive Stores (store : MemoryStore) : Operation → Json → Prop where
  /-- A document is stored whatever its revision. -/
  | inserted {id : String} {document : Json} : Stores store (.insert id document) document
  /-- The writer that waits for a document comes before each write of it. -/
  | waiting {id : String} {body document : Json} (waits : store.writerDocument? id = some document) :
    Stores store (.call (.putDocument id body)) document
  /-- A write goes through. -/
  | sent {id : String} {body : Json} (accepted : (store.put id body).1.status = 201) :
    Stores store (.call (.putDocument id body)) body

/-- How the documents of a store come about from earlier ones, if only certain values are stored. -/
inductive Evolves (allowed : Json → Prop) : MemoryStore → MemoryStore → Prop where
  /-- No document is stored. -/
  | same {store later : MemoryStore} (documents : later.documents = store.documents)
    (revisions : later.revisions = store.revisions) : Evolves allowed store later
  /-- One document is stored. -/
  | write {store : MemoryStore} (id : String) {document : Json} (fits : allowed document) :
    Evolves allowed store (store.write id document).2
  /-- One document is stored after the other. -/
  | trans {store middle later : MemoryStore} (first : Evolves allowed store middle)
    (second : Evolves allowed middle later) : Evolves allowed store later

section Evolves

variable {allowed : Json → Prop} {store later : MemoryStore}

/-- The writer that waits stores one document, if there is one. -/
theorem evolves_runWriter {id : String}
    (fits : ∀ document, store.writerDocument? id = some document → allowed document) :
    Evolves allowed store (store.runWriter id) := by
  -- Taking the writer off the queue stores nothing; its write does.
  cases waits : store.writerDocument? id with
  | none =>
    rw [runWriter_of_none waits]
    exact .same rfl rfl
  | some document =>
    obtain ⟨others, after⟩ := runWriter_of_some waits
    have called : Evolves allowed store { store with writers := others } := .same rfl rfl
    rw [after]
    exact called.trans (.write id (fits document waits))

/-- Every operation stores only what it is said to store. -/
theorem evolves_operate {operation : Operation}
    (fits : ∀ document, store.Stores operation document → allowed document) :
    Evolves allowed store (store.operate operation) := by
  -- Only a call that writes and an insertion put documents into the store.
  cases operation with
  | call call =>
    cases call with
    | queryView path query => exact .same rfl rfl
    | getDocument id => exact .same rfl rfl
    | putDocument id body =>
      -- The waiting writer comes first, then the write itself, and the trace last.
      have behind : Evolves allowed store (store.runWriter id) :=
        evolves_runWriter fun document waits => fits document (.waiting waits)
      have decided : Evolves allowed (store.runWriter id) (store.put id body).2 := by
        have result := put_result store id body
        have sent : (store.put id body).1.status = 201 → allowed body := fun accepted =>
          fits body (.sent accepted)
        generalize store.put id body = after at result sent
        cases result with
        | refused status stale fewer => exact .same rfl rfl
        | accepted status calm latest => exact .write id (sent status)
      exact .trans behind (.trans decided (.same rfl rfl))
  | insert id document => exact .write id (fits document .inserted)
  | seed view rows => exact .same rfl rfl
  | force count => exact .same rfl rfl
  | inject id edit => exact .same rfl rfl

end Evolves

/-- Whether a stored object carries its own id and a revision that the store gave. -/
def StampedAt (store : MemoryStore) (id : String) (document : Json) : Prop :=
  -- A value that is no object carries nothing.
  ∀ members, document = .object members →
    members.get? "_id" = some (.string id) ∧
      ∃ rev, members.get? "_rev" = some (.string rev) ∧ store.Gave rev

/-- Whether every stored object carries its own id and a revision that the store gave. -/
def Stamped (store : MemoryStore) : Prop :=
  ∀ id document, store.document? id = some document → store.StampedAt id document

/-- A write stores what carries its own id and the new revision. -/
theorem Stamped.write {store : MemoryStore} (stamped : store.Stamped) (id : String)
    (document : Json) : (store.write id document).2.Stamped := by
  -- The document that is written gets its stamp now, and the others keep theirs.
  intro wanted found stored members same
  rw [document?_write] at stored
  subst same
  split at stored
  · rename_i here
    subst here
    -- Only an object becomes an object by being stored.
    cases document with
    | object sent =>
      have carried := Option.some.inj stored
      have own := get?_stamp_id id (store.nextRev id) sent
      have rev := get?_stamp_rev id (store.nextRev id) sent
      rw [carried] at own rev
      exact ⟨own, _, rev, gave_nextRev store id _⟩
    | null | bool _ | number _ | string _ | array _ => cases stored
  · obtain ⟨own, rev, carried, gave⟩ := stamped wanted _ stored members rfl
    exact ⟨own, rev, carried, gave.mono (Nat.le_succ _)⟩

/-- Whatever is stored, stored objects carry their own ids and revisions that the store gave. -/
theorem Stamped.evolves {allowed : Json → Prop} {store later : MemoryStore}
    (stamped : store.Stamped) (evolves : Evolves allowed store later) : later.Stamped := by
  -- Only a write changes what is stored, and it stamps what it stores.
  induction evolves with
  | same documents revisions =>
    intro id document stored members same
    rw [document?, documents] at stored
    obtain ⟨own, rev, carried, gave⟩ := stamped id document stored members same
    exact ⟨own, rev, carried, gave.mono (Nat.le_of_eq revisions.symm)⟩
  | write id fits => exact stamped.write id _
  | trans first second ihFirst ihSecond => exact ihSecond (ihFirst stamped)

/-- Whatever was done to a store, its objects carry their own ids and revisions that it gave. -/
theorem stamped_ofHistory (history : List Operation) : (ofHistory history).Stamped := by
  -- Nothing is stored at first, and every operation keeps what is carried.
  have general : ∀ store : MemoryStore, store.Stamped → (history.foldl operate store).Stamped := by
    induction history with
    | nil => exact fun store stamped => stamped
    | cons operation later ih =>
      intro store stamped
      have step : Evolves (fun _ => True) store (store.operate operation) :=
        evolves_operate fun _ _ => trivial
      exact ih _ (stamped.evolves step)
  refine general {} ?_
  intro id document stored
  cases stored

/-- Whether every stored document is an object. -/
def HoldsObjects (store : MemoryStore) : Prop :=
  ∀ id document, store.document? id = some document → document.IsObject

/-- If only objects are stored, then only objects are held. -/
theorem HoldsObjects.evolves {store later : MemoryStore} (holds : store.HoldsObjects)
    (evolves : Evolves Json.IsObject store later) : later.HoldsObjects := by
  -- Stamping an object leaves an object.
  induction evolves with
  | same documents revisions =>
    intro id document stored
    rw [document?, documents] at stored
    exact holds id document stored
  | write id fits =>
    intro wanted found stored
    rw [document?_write] at stored
    split at stored
    · obtain ⟨members, rfl⟩ := fits
      cases stored
      exact ⟨_, rfl⟩
    · exact holds wanted found stored
  | trans first second ihFirst ihSecond => exact ihSecond (ihFirst holds)

end DocView.MemoryStore
