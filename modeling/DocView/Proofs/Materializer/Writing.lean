import DocView.Proofs.DesignDocument
import DocView.Proofs.Materializer.Discipline
import DocView.Store.Scripted

/-!
What a run writes is what it read right before, with its definition put in. Nothing that an earlier
reading brought is written, and what is no design document is never written over.
-/

namespace DocView.Materializer

/-- What a run writes if the reading of its design document brings a reply. -/
inductive Composes (run : Materializer) : Reply → Json → Prop where
  /-- A document that does not exist yet gets its id and the definition, and no revision. -/
  | created {reply : Reply} (absent : reply.status = 404) :
    Composes run reply (.ofMembers [("_id", .string run.design),
      ("views", .ofMembers [(run.request.index, run.request.definition.toJson)])])
  /-- A document that exists keeps its members, and the definition is put in. -/
  | amended {reply : Reply} {members written : Table Json} (found : reply.status = 200)
    (holds : reply.body = .object members) (wellFormed : DesignDocument.WellFormed members)
    (putsIn : DesignDocument.PutsIn run.request.definition members written) :
    Composes run reply (.object written)

/-- A reply leaves no choice of what is written. -/
theorem Composes.unique {run : Materializer} {reply : Reply} {body other : Json}
    (first : run.Composes reply body) (second : run.Composes reply other) : other = body := by
  -- The status tells the two cases apart.
  cases first with
  | created absent =>
    cases second with
    | created => rfl
    | amended found => simp [found] at absent
  | amended found holds wellFormed putsIn =>
    cases second with
    | created absent => simp [found] at absent
    | amended found' holds' wellFormed' putsIn' =>
      rw [holds] at holds'
      cases holds'
      rw [putsIn.unique putsIn']

section Reading

variable {run : Materializer} {answer : Answer} {document : DesignDocument}

/-- What is written behind a reading is composed from the reply to it. -/
theorem composes_of_readDocument (found : run.readDocument answer = .ok document) :
    ∃ reply, answer = .ok reply ∧
      run.Composes reply (document.setView run.request.definition).toJson := by
  -- The document is a new one or that of the body, and the view is put into either.
  obtain ⟨reply, came, ⟨absent, fresh⟩ | ⟨status, read⟩⟩ := of_readDocument found
  · -- Nothing was found, so the document is a new one.
    refine ⟨reply, came, ?_⟩
    rw [fresh, DesignDocument.toJson_setView_fresh]
    exact .created absent
  · -- What is written differs from what was found as the definition demands.
    refine ⟨reply, came, ?_⟩
    obtain ⟨members, holds, from_members⟩ := DesignDocument.of_ofJson? read
    obtain ⟨written, same, putsIn⟩ := from_members.putsIn run.request.definition
    rw [same]
    exact .amended status holds (DesignDocument.exists_readFrom_iff.1 ⟨document, from_members⟩) putsIn

/-- A reply that a document was read from holds a design document. -/
theorem isDesignDocument_of_readDocument {reply : Reply}
    (found : run.readDocument (.ok reply) = .ok document) (status : reply.status = 200) :
    reply.body.IsDesignDocument := by
  obtain ⟨_, ⟨⟩, ⟨absent, _⟩ | ⟨_, read⟩⟩ := of_readDocument found
  · simp [status] at absent
  · obtain ⟨members, holds, from_members⟩ := DesignDocument.of_ofJson? read
    exact ⟨members, holds, DesignDocument.exists_readFrom_iff.1 ⟨document, from_members⟩⟩

end Reading

/-- How an exchange bears on the one right behind it. -/
structure Bears (run : Materializer) (earlier later : Exchange) : Prop where
  /-- A write stands behind a reading, and its body is composed from what that brought. -/
  composes : ∀ id body, later.1 = .putDocument id body →
    ∃ reply, earlier = (run.documentRead, .ok reply) ∧ run.Composes reply body
  /-- Something stands behind a document that was read only if it is a design document. -/
  isDesignDocument : ∀ id reply, earlier = (.getDocument id, .ok reply) → reply.status = 200 →
    reply.body.IsDesignDocument

section Grammar

variable {run : Materializer} {exchanges : List Exchange} {outcome : Outcome}

/-- A reading that brought a design document may be followed by a query. -/
theorem bears_query_of_readDocument {read last : Answer} {document : DesignDocument}
    (found : run.readDocument read = .ok document) :
    run.Bears (run.documentRead, read) (run.viewQuery, last) := by
  -- A query writes nothing, so what is left is that the reading brought a design document.
  constructor
  · intro id body writes
    cases writes
  · intro id reply same status
    cases same
    exact isDesignDocument_of_readDocument found status

/-- A reading that brought a design document may be followed by its write. -/
theorem bears_write_of_readDocument {read write : Answer} {document : DesignDocument}
    (found : run.readDocument read = .ok document) :
    run.Bears (run.documentRead, read) (run.documentWrite document, write) := by
  -- The document that was read is the one that the view is put into.
  constructor
  · intro id body writes
    cases writes
    obtain ⟨reply, rfl, composes⟩ := composes_of_readDocument found
    exact ⟨reply, rfl, composes⟩
  · intro id reply same status
    cases same
    exact isDesignDocument_of_readDocument found status

/-- What reads no document bears on nothing but a write. -/
theorem bears_of_not_write {earlier later : Exchange} (reads : earlier.1.isRead = false)
    (writes : later.1.isWrite = false) : run.Bears earlier later := by
  constructor
  · intro id body same
    simp [same, StoreCall.isWrite] at writes
  · rintro id reply rfl
    cases reads

/-- The exchanges of a session bear on each other. -/
theorem Session.bears (session : Session run exchanges outcome) : exchanges.IsChain run.Bears :=
  session.isChain (fun _ => bears_query_of_readDocument) (fun _ => bears_write_of_readDocument)
    bears_of_not_write

/-- A session begins with a query. -/
theorem Session.head (session : Session run exchanges outcome) :
    ∀ exchange ∈ exchanges.head?, exchange.1 = run.viewQuery := by
  cases session <;> simp

end Grammar

/--
Whatever a store answers, each body that a run writes is decided by the reading right before it.

If that found nothing, the body is the id and the definition. If it found a design document, the
body is that document with the definition put in. Behind anything else the run ends.
-/
theorem complete_writes_reading {σ : Type} (run : Materializer) (answer : Behaviour σ) (store : σ) :
    (∀ earlier id body written later,
      (run.complete answer store).exchanges = earlier ++ (.putDocument id body, written) :: later →
        ∃ before reply, earlier = before ++ [(run.documentRead, .ok reply)] ∧
          run.Composes reply body ∧ ∀ other, run.Composes reply other → other = body) ∧
      ∀ earlier id reply later,
        (run.complete answer store).exchanges = earlier ++ (.getDocument id, .ok reply) :: later →
          reply.status = 200 → ¬reply.body.IsDesignDocument → later = [] := by
  -- Both parts look at two neighbours in the session, for which the chain says what they bear.
  have session := complete_session run answer store
  have chain := session.bears
  constructor
  · intro earlier id body written later split
    rw [split] at chain
    -- A write is not the first exchange, so one stands before it.
    rcases earlier.eq_nil_or_concat with rfl | ⟨before, last, rfl⟩
    · have first := session.head (.putDocument id body, written) (by simp [split])
      cases first
    · rw [List.concat_eq_append, List.append_assoc, List.singleton_append,
        List.isChain_append_cons_cons] at chain
      obtain ⟨reply, same, composes⟩ := chain.2.1.composes id body rfl
      refine ⟨before, reply, ?_, composes, fun other => composes.unique⟩
      rw [List.concat_eq_append, same]
  · intro earlier id reply later split status foreign
    cases later with
    | nil => rfl
    | cons next later =>
      -- Something stands behind the reading, so what it brought was a design document.
      rw [split, List.isChain_append_cons_cons] at chain
      exact absurd (chain.2.1.isDesignDocument id reply rfl status) foreign

/-- A run with two attempts. -/
def agesRun : Materializer where
  design := "_design/app"
  budget := 2
  request := ⟨"ages", "_design/app/_view/ages", "limit=1", ⟨"user", ["age"], false⟩⟩

/-- What a store holds when a run reads it for the second time. -/
def rewritten : Json :=
  .ofMembers [("_id", .string "_design/app"), ("_rev", .string "2-b"),
    ("views", .ofMembers [("names", .null)])]

/-- A store whose design document is rewritten between a reading and the write behind it. -/
def outpacing : ScriptedStore where
  views := [.ok ⟨404, (ErrorBody.notFound "missing").toJson⟩]
  gets := [.ok ⟨200, .ofMembers [("_id", .string "_design/app"), ("_rev", .string "1-a"),
    ("language", .string "javascript")]⟩, .ok ⟨200, rewritten⟩]
  puts := [.ok ⟨409, ErrorBody.conflict.toJson⟩, .ok ⟨201, .null⟩]

/-- The write behind a conflict takes up the second reading and nothing of the first. -/
theorem complete_writes_reading_outpaced :
    ∃ earlier body later,
      (agesRun.complete ScriptedStore.answer outpacing).exchanges =
        earlier ++ (.putDocument "_design/app" body, .ok ⟨201, .null⟩) :: later ∧
      agesRun.Composes ⟨200, rewritten⟩ body := by
  -- The six exchanges are computed, and the write is the fifth of them.
  have split : (agesRun.complete ScriptedStore.answer outpacing).exchanges =
      (agesRun.complete ScriptedStore.answer outpacing).exchanges.take 4 ++
        (.putDocument "_design/app" (.ofMembers [("_id", .string "_design/app"),
          ("_rev", .string "2-b"), ("views", .ofMembers [("names", .null),
            ("ages", agesRun.request.definition.toJson)])]), .ok ⟨201, .null⟩) ::
          (agesRun.complete ScriptedStore.answer outpacing).exchanges.drop 5 := by
    decide +kernel
  have latest : ((agesRun.complete ScriptedStore.answer outpacing).exchanges.take 4).getLast? =
      some (agesRun.documentRead, .ok ⟨200, rewritten⟩) := by
    decide +kernel
  obtain ⟨before, reply, front, composes, _⟩ :=
    (complete_writes_reading agesRun ScriptedStore.answer outpacing).1 _ _ _ _ _ split
  rw [front, List.getLast?_concat] at latest
  cases latest
  exact ⟨_, _, _, split, composes⟩

end DocView.Materializer
