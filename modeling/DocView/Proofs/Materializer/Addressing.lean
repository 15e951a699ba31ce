import DocView.Proofs.Materializer.Writing

/-!
Which documents a run calls for.

A run reads the design document that it is for. It writes under the id that stands in what it read,
so it keeps to its own document exactly if every document that it writes back carries the id under
which it was asked for.
-/

namespace DocView

/-- The id of the document that a call is for, if it is for one. -/
def StoreCall.document? : StoreCall → Option String
  | queryView .. => none
  | getDocument id => some id
  | putDocument id _ => some id

/-- Whether a document carries an id. -/
def Json.Carries (value : Json) (id : String) : Prop :=
  value.members.get? "_id" = some (.string id)

/-- A document carries one id. -/
theorem Json.Carries.unique {value : Json} {id other : String} (carries : value.Carries id)
    (also : value.Carries other) : other = id := by
  rw [Json.Carries, carries] at also
  cases also
  rfl

namespace Materializer

/-- The id under which a run writes behind a reply to its reading. -/
inductive Addresses (run : Materializer) : Reply → String → Prop where
  /-- A document that does not exist yet is written under the id of the run. -/
  | created {reply : Reply} (absent : reply.status = 404) : Addresses run reply run.design
  /-- A document that exists is written under the id that it carries. -/
  | carried {reply : Reply} {id : String} (found : reply.status = 200)
    (carries : reply.body.Carries id) : Addresses run reply id

section Reading

variable {run : Materializer} {reply : Reply} {answer : Answer} {document : DesignDocument}

/-- A document that was read is written under the id that the reply to the reading gives. -/
theorem addresses_of_readDocument (found : run.readDocument answer = .ok document) :
    ∃ reply, answer = .ok reply ∧ run.Addresses reply document.id := by
  -- The document is a new one or that of the body, and each has an id of its own.
  obtain ⟨reply, came, ⟨absent, fresh⟩ | ⟨status, read⟩⟩ := of_readDocument found
  · -- The new document is made for the id of the run.
    refine ⟨reply, came, ?_⟩
    rw [fresh]
    exact .created absent
  · -- The id is one of the members that were decoded, and nothing compares it with that asked for.
    obtain ⟨members, holds, from_members⟩ := DesignDocument.of_ofJson? read
    have carries : reply.body.Carries document.id := by
      rw [holds]
      exact from_members.id
    exact ⟨reply, came, .carried status carries⟩

/-- A reply leads to the id of the run exactly if a document that it brings carries that id. -/
theorem Addresses.eq_design_iff {id : String} (addresses : run.Addresses reply id) :
    id = run.design ↔ (reply.status = 200 → reply.body.Carries run.design) := by
  -- A new document has the id of the run, and what was found has the one that it carries.
  cases addresses with
  | created absent => simp [absent]
  | carried found carries =>
    constructor
    · intro own _
      rw [← own]
      exact carries
    · intro own
      exact (own found).unique carries

end Reading

section Grammar

variable {run : Materializer} {exchanges : List Exchange} {outcome : Outcome}

/-- Whether the exchange right before a write gives its id. -/
def GivesId (run : Materializer) (earlier later : Exchange) : Prop :=
  ∀ id body, later.1 = .putDocument id body →
    ∃ reply, earlier = (run.documentRead, .ok reply) ∧ run.Addresses reply id

/-- The reading before each write of a session gives its id. -/
theorem Session.givesId (session : Session run exchanges outcome) :
    exchanges.IsChain run.GivesId := by
  -- Only the pair of a reading and its write has anything to show.
  apply session.isChain
  · intro read document last found id body writes
    cases writes
  · intro read document write found id body writes
    cases writes
    obtain ⟨reply, rfl, addresses⟩ := addresses_of_readDocument found
    exact ⟨reply, rfl, addresses⟩
  · intro earlier later reads writes id body same
    simp [same, StoreCall.isWrite] at writes

/-- Each write of a session stands behind the reading that gives its id. -/
theorem Session.exists_reading (session : Session run exchanges outcome)
    {earlier later : List Exchange} {id : String} {body : Json} {written : Answer}
    (split : exchanges = earlier ++ (.putDocument id body, written) :: later) :
    ∃ before reply, earlier = before ++ [(run.documentRead, .ok reply)] ∧
      run.Addresses reply id := by
  -- The chain of the session tells what stands right before a write.
  have chain := session.givesId
  rw [split] at chain
  -- A session begins with a query, so something stands before the write.
  rcases earlier.eq_nil_or_concat with rfl | ⟨before, last, rfl⟩
  · have first := session.head (.putDocument id body, written) (by simp [split])
    cases first
  · rw [List.concat_eq_append, List.append_assoc, List.singleton_append,
      List.isChain_append_cons_cons] at chain
    obtain ⟨reply, same, addresses⟩ := chain.2.1 id body rfl
    exact ⟨before, reply, by rw [List.concat_eq_append, same], addresses⟩

end Grammar

/--
Whatever a store answers, a run reads no document but its own, and each write goes to the id that
the reading right before it gives.

So every call for a document is for the configured one exactly if each document that is written back
carried the configured id when it was read. Of a document that a run creates nothing is asked.
-/
theorem complete_addresses {σ : Type} (run : Materializer) (answer : Behaviour σ) (store : σ) :
    (∀ exchange ∈ (run.complete answer store).exchanges, ∀ id,
      exchange.1 = .getDocument id → id = run.design) ∧
    (∀ earlier id body written later,
      (run.complete answer store).exchanges = earlier ++ (.putDocument id body, written) :: later →
        ∃ before reply, earlier = before ++ [(run.documentRead, .ok reply)] ∧
          run.Addresses reply id) ∧
    ((∀ exchange ∈ (run.complete answer store).exchanges, ∀ id,
        exchange.1.document? = some id → id = run.design) ↔
      ∀ before reply id body written later,
        (run.complete answer store).exchanges =
            before ++ (run.documentRead, .ok reply) :: (.putDocument id body, written) :: later →
          reply.status = 200 → reply.body.Carries run.design) := by
  -- The writes alone can stray, and each of them is led back to the reading in front of it.
  have session := complete_session run answer store
  have reads : ∀ exchange ∈ (run.complete answer store).exchanges, ∀ id,
      exchange.1 = .getDocument id → id = run.design := by
    intro exchange member id same
    have read := session.read_eq exchange member (by rw [same]; rfl)
    rw [same] at read
    cases read
    rfl
  refine ⟨reads, fun _ _ _ _ _ split => session.exists_reading split, ?_, ?_⟩
  · intro own before reply id body written later split
    -- The write is a call for a document, and its id is the one that the reading gives.
    have member : (.putDocument id body, written) ∈ (run.complete answer store).exchanges := by
      simp [split]
    have behind : (run.complete answer store).exchanges =
        (before ++ [(run.documentRead, .ok reply)]) ++
          (.putDocument id body, written) :: later := by
      simp [split]
    obtain ⟨_, last, same, addresses⟩ := session.exists_reading behind
    obtain ⟨_, ends⟩ := List.append_inj' same rfl
    cases ends
    exact addresses.eq_design_iff.1 (own _ member id rfl)
  · intro carried exchange member id same
    obtain ⟨call, written⟩ := exchange
    -- A query is for no document, a reading is for that of the run, and a write is looked up.
    cases call with
    | queryView path query => cases same
    | getDocument target =>
      cases same
      exact reads _ member id rfl
    | putDocument target body =>
      cases same
      obtain ⟨earlier, later, split⟩ := List.append_of_mem member
      obtain ⟨before, reply, front, addresses⟩ := session.exists_reading split
      refine addresses.eq_design_iff.2 (carried before reply id body written later ?_)
      rw [split, front]
      simp

/-- A store that answers the reading with a document of another id. -/
def straying : ScriptedStore where
  views := [.ok ⟨404, (ErrorBody.notFound "missing").toJson⟩,
    .ok ⟨200, .ofMembers [("rows", .array [])]⟩]
  gets := [.ok ⟨200, .ofMembers [("_id", .string "_design/other"), ("views", .object ∅)]⟩]
  puts := [.ok ⟨201, .null⟩]

/-- A run writes a document that is not its own if the store brings it one. -/
theorem complete_strays :
    (agesRun.complete ScriptedStore.answer straying).exchanges.map (·.1.document?) =
        [none, some "_design/app", some "_design/other", none] ∧
      (agesRun.complete ScriptedStore.answer straying).outcome = .ok ⟨none, none, []⟩ ∧
      ¬∀ exchange ∈ (agesRun.complete ScriptedStore.answer straying).exchanges, ∀ id,
        exchange.1.document? = some id → id = agesRun.design := by
  -- The run is computed, and what it called is compared with what it was made for.
  have calls : (agesRun.complete ScriptedStore.answer straying).exchanges.map (·.1.document?) =
      [none, some "_design/app", some "_design/other", none] := by decide +kernel
  refine ⟨calls, by decide +kernel, fun own => ?_⟩
  -- The third call is the write, and it is for the document that was brought.
  have written : some "_design/other" ∈
      (agesRun.complete ScriptedStore.answer straying).exchanges.map (·.1.document?) := by
    rw [calls]
    decide
  obtain ⟨exchange, member, same⟩ := List.mem_map.1 written
  exact absurd (own exchange member _ same) (by decide)

end Materializer

end DocView
