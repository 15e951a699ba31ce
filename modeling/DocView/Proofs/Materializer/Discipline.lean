import DocView.Proofs.Materializer.Session
import Mathlib.Data.List.Chain

/-!
What a run may ask of a store, and in which order: every write follows a reading, only a conflict
is tried again, and the attempts stay within the budget.
-/

namespace DocView.Materializer

/-- Whether an exchange leaves nothing to do but the second query. -/
def Settles (run : Materializer) (exchange : Exchange) : Prop :=
  -- Either the definition was written, or it was found in the document that was read.
  (exchange.1.isWrite = true ∧ TellsWritten exchange.2) ∨
    (exchange.1.isRead = true ∧ ∃ document, run.readDocument exchange.2 = .ok document ∧
      document.hasDefinition run.request.definition = true)

/-- Whether a run ends for want of attempts. -/
def GivesUp (outcome : Outcome) : Prop :=
  ∃ index attempts, outcome = .error (.creationExhausted index attempts)

/-- The order and the number of the calls of a run, and when it gives up. -/
structure Disciplined (run : Materializer) (exchanges : List Exchange) (outcome : Outcome) :
    Prop where
  /-- A run begins with a query, and goes on only if the answer tells that the view is missing. -/
  starts : ∃ first later, exchanges = (run.viewQuery, first) :: later ∧
    (later ≠ [] → TellsMissing first)
  /-- The view is queried at most twice. -/
  queries : exchanges.countP (·.1.isQuery) ≤ 2
  /-- The design document is read right before each write. -/
  reads_before_writes : exchanges.IsChain fun earlier later =>
    later.1.isWrite = true → earlier.1 = run.documentRead
  /-- The budget bounds the readings. -/
  reads : exchanges.countP (·.1.isRead) ≤ run.budget
  /-- The budget bounds the writes. -/
  writes : exchanges.countP (·.1.isWrite) ≤ run.budget
  /-- The calls come to an end. -/
  calls : exchanges.length ≤ 2 * run.budget + 2
  /-- A write that is not the last one met another write. -/
  conflicts : exchanges.Pairwise fun earlier later =>
    earlier.1.isWrite = true → later.1.isWrite = true → TellsConflict earlier.2
  /-- Once the definition is there, the second query follows and nothing else. -/
  settled : ∀ exchange later, exchange :: later <:+ exchanges → run.Settles exchange →
    (∃ last, later = [(run.viewQuery, last)]) ∧ exchanges.countP (·.1.isQuery) = 2
  /-- The run gives up exactly when the view is missing and every attempt met another write. -/
  exhausted : GivesUp outcome ↔
    ∃ first later, exchanges = (run.viewQuery, first) :: later ∧ TellsMissing first ∧
      later.countP (·.1.isWrite) = run.budget ∧
      ∀ exchange ∈ later, exchange.1.isWrite = true → TellsConflict exchange.2
  /-- A run that gives up tells how many attempts it had. -/
  attempts : ∀ index attempts, outcome = .error (.creationExhausted index attempts) →
    index = run.request.index ∧ attempts = run.budget

section Calls

variable (run : Materializer) (document : DesignDocument)

@[simp] theorem isQuery_viewQuery : run.viewQuery.isQuery = true := rfl

@[simp] theorem isRead_viewQuery : run.viewQuery.isRead = false := rfl

@[simp] theorem isWrite_viewQuery : run.viewQuery.isWrite = false := rfl

@[simp] theorem isQuery_documentRead : run.documentRead.isQuery = false := rfl

@[simp] theorem isRead_documentRead : run.documentRead.isRead = true := rfl

@[simp] theorem isWrite_documentRead : run.documentRead.isWrite = false := rfl

@[simp] theorem isQuery_documentWrite : (run.documentWrite document).isQuery = false := rfl

@[simp] theorem isRead_documentWrite : (run.documentWrite document).isRead = false := rfl

@[simp] theorem isWrite_documentWrite : (run.documentWrite document).isWrite = true := rfl

end Calls

/-- No answer tells both of a write that met another one and of one that went through. -/
theorem not_tellsWritten_of_tellsConflict {answer : Answer} (conflicted : TellsConflict answer) :
    ¬TellsWritten answer := by
  -- The statuses of the two differ.
  intro written
  simp only [TellsWritten, TellsConflict] at written conflicted
  rcases written with status | status <;> simp [status] at conflicted

section Attempts

variable {run : Materializer} {remaining : Nat} {exchanges : List Exchange} {outcome : Outcome}

/-- The attempts that are left bound the calls, and the view is queried at most once more. -/
theorem Attempts.counts (attempts : Attempts run remaining exchanges outcome) :
    exchanges.countP (·.1.isQuery) ≤ 1 ∧ exchanges.countP (·.1.isRead) ≤ remaining ∧
      exchanges.countP (·.1.isWrite) ≤ remaining ∧ exchanges.length ≤ 2 * remaining + 1 := by
  -- The calls of an attempt that ends the run are counted out.
  induction attempts with
  | exhausted =>
    show 0 ≤ 1 ∧ 0 ≤ 0 ∧ 0 ≤ 0 ∧ 0 ≤ 2 * 0 + 1
    omega
  | @unread remaining =>
    show 0 ≤ 1 ∧ 1 ≤ remaining + 1 ∧ 0 ≤ remaining + 1 ∧ 1 ≤ 2 * (remaining + 1) + 1
    omega
  | @present remaining =>
    show 1 ≤ 1 ∧ 1 ≤ remaining + 1 ∧ 0 ≤ remaining + 1 ∧ 2 ≤ 2 * (remaining + 1) + 1
    omega
  | @unwritten remaining =>
    show 0 ≤ 1 ∧ 1 ≤ remaining + 1 ∧ 1 ≤ remaining + 1 ∧ 2 ≤ 2 * (remaining + 1) + 1
    omega
  | @installed remaining =>
    show 1 ≤ 1 ∧ 1 ≤ remaining + 1 ∧ 1 ≤ remaining + 1 ∧ 3 ≤ 2 * (remaining + 1) + 1
    omega
  | conflict found lacks conflicted rest ih =>
    -- A refused attempt costs one reading and one write.
    obtain ⟨queries, reads, writes, calls⟩ := ih
    simp [List.countP_cons]
    omega

/-- The attempts query the view, read the design document, or write one with the definition put in. -/
theorem Attempts.call_cases (attempts : Attempts run remaining exchanges outcome) :
    ∀ exchange ∈ exchanges, exchange.1 = run.viewQuery ∨ exchange.1 = run.documentRead ∨
      ∃ document, exchange.1 = run.documentWrite document := by
  -- Each attempt makes at most one call of a kind, and the rest after a conflict makes the others.
  induction attempts with
  | exhausted => simp
  | unread failed => simp
  | present found holds => simp
  | unwritten found lacks refused failed => simp
  | installed found lacks written => simp
  | conflict found lacks conflicted rest ih => simpa using ih

/-- A session makes no calls but these. -/
theorem Session.call_cases (session : Session run exchanges outcome) :
    ∀ exchange ∈ exchanges, exchange.1 = run.viewQuery ∨ exchange.1 = run.documentRead ∨
      ∃ document, exchange.1 = run.documentWrite document := by
  cases session with
  | answered decided => simp
  | missing missing rest => simpa using rest.call_cases

/-- A session queries no view but that of the run, and always in the same words. -/
theorem Session.query_eq (session : Session run exchanges outcome) :
    ∀ exchange ∈ exchanges, exchange.1.isQuery = true → exchange.1 = run.viewQuery := by
  intro exchange member asks
  rcases session.call_cases exchange member with query | read | ⟨document, write⟩
  · exact query
  · simp [read] at asks
  · simp [write] at asks

/-- A session reads no document but that of the run. -/
theorem Session.read_eq (session : Session run exchanges outcome) :
    ∀ exchange ∈ exchanges, exchange.1.isRead = true → exchange.1 = run.documentRead := by
  intro exchange member reads
  rcases session.call_cases exchange member with query | read | ⟨document, write⟩
  · simp [query] at reads
  · exact read
  · simp [write] at reads

/-- The attempts begin with a reading, if they begin at all. -/
theorem Attempts.head (attempts : Attempts run remaining exchanges outcome) :
    ∀ exchange ∈ exchanges.head?, exchange.1 = run.documentRead := by
  cases attempts <;> simp

section Neighbours

variable {holds : Exchange → Exchange → Prop}

/--
What holds of neighbours in the attempts.

It is enough to look at a reading with what the document that it brought leads to, and at what is
no reading with what is no write.
-/
theorem Attempts.isChain
    (asked : ∀ {read : Answer} {document : DesignDocument} (last : Answer),
      run.readDocument read = .ok document → holds (run.documentRead, read) (run.viewQuery, last))
    (wrote : ∀ {read : Answer} {document : DesignDocument} (write : Answer),
      run.readDocument read = .ok document →
        holds (run.documentRead, read) (run.documentWrite document, write))
    (others : ∀ {earlier later : Exchange}, earlier.1.isRead = false → later.1.isWrite = false →
      holds earlier later)
    (attempts : Attempts run remaining exchanges outcome) : exchanges.IsChain holds := by
  -- Within an attempt a write or the query stands behind the reading.
  induction attempts with
  | exhausted => exact .nil
  | unread failed => exact .singleton _
  | present found holds => exact .cons_cons (asked _ found) (.singleton _)
  | unwritten found lacks refused failed => exact .cons_cons (wrote _ found) (.singleton _)
  | installed found lacks written =>
    exact .cons_cons (wrote _ found) (.cons_cons (others rfl rfl) (.singleton _))
  | conflict found lacks conflicted rest ih =>
    refine .cons_cons (wrote _ found) (List.isChain_cons.2 ⟨?_, ih⟩)
    -- The next attempt begins with a reading of its own, to which the refused write is nothing.
    intro next first
    refine others rfl ?_
    rw [rest.head next first]
    rfl

/-- The first query of a session is no reading, and no write stands behind it. -/
theorem Session.isChain
    (asked : ∀ {read : Answer} {document : DesignDocument} (last : Answer),
      run.readDocument read = .ok document → holds (run.documentRead, read) (run.viewQuery, last))
    (wrote : ∀ {read : Answer} {document : DesignDocument} (write : Answer),
      run.readDocument read = .ok document →
        holds (run.documentRead, read) (run.documentWrite document, write))
    (others : ∀ {earlier later : Exchange}, earlier.1.isRead = false → later.1.isWrite = false →
      holds earlier later)
    (session : Session run exchanges outcome) : exchanges.IsChain holds := by
  -- The first query is followed by a reading, and behind it the attempts are such a chain.
  cases session with
  | answered decided => exact .singleton _
  | missing missing rest =>
    refine List.isChain_cons.2 ⟨fun next first => others rfl ?_, rest.isChain asked wrote others⟩
    rw [rest.head next first]
    rfl

/-- Each write of a session comes right behind a reading. -/
theorem Session.reads_before_writes (session : Session run exchanges outcome) :
    exchanges.IsChain fun earlier later =>
      later.1.isWrite = true → earlier.1 = run.documentRead := by
  refine session.isChain (fun _ _ _ => rfl) (fun _ _ _ => rfl) fun _ reads writes => ?_
  rw [reads] at writes
  cases writes

end Neighbours

/-- Each write of the attempts but the last one met another write. -/
theorem Attempts.conflicts (attempts : Attempts run remaining exchanges outcome) :
    exchanges.Pairwise fun earlier later =>
      earlier.1.isWrite = true → later.1.isWrite = true → TellsConflict earlier.2 := by
  -- Only a conflict is followed by another write.
  induction attempts with
  | exhausted => exact .nil
  | unread failed => simp
  | present found holds => simp
  | unwritten found lacks refused failed => simp
  | installed found lacks written => simp
  | conflict found lacks conflicted rest ih =>
    refine .cons ?_ (.cons ?_ ih)
    · simp
    · intro _ _ _ _
      exact conflicted

/-- What holds of each exchange and those behind it holds of the first and of the later ones. -/
theorem forall_suffix_cons {holds : Exchange → List Exchange → Prop} {first : Exchange}
    {rest : List Exchange} (here : holds first rest)
    (behind : ∀ exchange later, exchange :: later <:+ rest → holds exchange later) :
    ∀ exchange later, exchange :: later <:+ first :: rest → holds exchange later := by
  intro exchange later within
  rcases List.suffix_cons_iff.1 within with same | within
  · obtain ⟨rfl, rfl⟩ := List.cons.inj same
    exact here
  · exact behind exchange later within

/-- No exchange stands in a run that makes no call. -/
theorem forall_suffix_nil {holds : Exchange → List Exchange → Prop} :
    ∀ exchange later, exchange :: later <:+ [] → holds exchange later := by
  intro exchange later within
  simp at within

/-- Once the definition is there, the attempts end with the second query. -/
theorem Attempts.settled (attempts : Attempts run remaining exchanges outcome) :
    ∀ exchange later, exchange :: later <:+ exchanges → run.Settles exchange →
      (∃ last, later = [(run.viewQuery, last)]) ∧ exchanges.countP (·.1.isQuery) = 1 := by
  -- The exchanges are gone through one by one; only the last but one may settle anything.
  induction attempts with
  | exhausted => exact forall_suffix_nil
  | unread failed =>
    refine forall_suffix_cons (fun settles => ?_) forall_suffix_nil
    simp [Settles, failed] at settles
  | present found holds =>
    refine forall_suffix_cons (fun _ => ⟨⟨_, rfl⟩, by simp [List.countP_cons]⟩) ?_
    refine forall_suffix_cons (fun settles => ?_) forall_suffix_nil
    simp [Settles] at settles
  | unwritten found lacks refused failed =>
    refine forall_suffix_cons (fun settles => ?_) ?_
    · simp [Settles, found, lacks] at settles
    refine forall_suffix_cons (fun settles => ?_) forall_suffix_nil
    simp [Settles, refused] at settles
  | installed found lacks written =>
    refine forall_suffix_cons (fun settles => ?_) ?_
    · simp [Settles, found, lacks] at settles
    refine forall_suffix_cons (fun _ => ⟨⟨_, rfl⟩, by simp [List.countP_cons]⟩) ?_
    refine forall_suffix_cons (fun settles => ?_) forall_suffix_nil
    simp [Settles] at settles
  | conflict found lacks conflicted rest ih =>
    refine forall_suffix_cons (fun settles => ?_) ?_
    · simp [Settles, found, lacks] at settles
    refine forall_suffix_cons (fun settles => ?_) ?_
    · simp [Settles, not_tellsWritten_of_tellsConflict conflicted] at settles
    · -- The later attempts query the view as often as all of them do.
      intro exchange later within settles
      simpa [List.countP_cons] using ih exchange later within settles

end Attempts

section Outcomes

variable {run : Materializer}

/-- A run that ends with its first query has not run out of attempts. -/
theorem not_givesUp_answered (answer : Answer) : ¬GivesUp (run.answered answer) := by
  rintro ⟨index, attempts, same⟩
  cases tellsOfInstall_answered same

/-- A run that ends with its second query has not run out of attempts. -/
theorem not_givesUp_reconciled (answer : Answer) : ¬GivesUp (run.reconciled answer) := by
  rintro ⟨index, attempts, same⟩
  cases tellsOfInstall_reconciled same

/-- A run that cannot read the design document has not run out of attempts. -/
theorem not_givesUp_of_unread {read : Answer} {error : QueryError}
    (failed : run.readDocument read = .error error) : ¬GivesUp (.error error) := by
  -- The failure to read a document has errors of its own.
  rintro ⟨index, attempts, same⟩
  cases same
  rcases of_readDocument_error failed with ⟨reason, _, wrong⟩ | ⟨reply, _, wrong, _⟩
  · cases wrong
  · cases wrong

/-- A run that cannot write the design document has not run out of attempts. -/
theorem not_givesUp_writeError (answer : Answer) : ¬GivesUp (.error (run.writeError answer)) := by
  rintro ⟨index, attempts, same⟩
  cases answer <;> simp [writeError] at same

end Outcomes

section Exhausted

variable {run : Materializer} {remaining : Nat} {exchanges : List Exchange} {outcome : Outcome}

/-- The attempts run out exactly when each of them came to a write that met another one. -/
theorem Attempts.givesUp_iff (attempts : Attempts run remaining exchanges outcome) :
    GivesUp outcome ↔ exchanges.countP (·.1.isWrite) = remaining ∧
      ∀ exchange ∈ exchanges, exchange.1.isWrite = true → TellsConflict exchange.2 := by
  -- Every other end of an attempt is told by an error of its own.
  induction attempts with
  | exhausted => simp [GivesUp]
  | unread failed => simp [not_givesUp_of_unread failed]
  | present found holds => simp [not_givesUp_reconciled]
  | unwritten found lacks refused failed => simp [not_givesUp_writeError, failed]
  | installed found lacks written =>
    have conflicted : ¬TellsConflict _ := fun conflicted =>
      not_tellsWritten_of_tellsConflict conflicted written
    simp [not_givesUp_reconciled, conflicted]
  | conflict found lacks conflicted rest ih => simp [ih, List.countP_cons, conflicted]

/-- A run that runs out of attempts tells of its view and its budget. -/
theorem Attempts.exhausted_eq (attempts : Attempts run remaining exchanges outcome) :
    ∀ index count, outcome = .error (.creationExhausted index count) →
      index = run.request.index ∧ count = run.budget := by
  -- Only the arm without attempts gives up, and a conflict hands on the end of the rest.
  induction attempts with
  | exhausted =>
    intro index count same
    simp only [Except.error.injEq, QueryError.creationExhausted.injEq] at same
    exact ⟨same.1.symm, same.2.symm⟩
  | unread failed => exact fun index count same => (not_givesUp_of_unread failed ⟨_, _, same⟩).elim
  | present found holds => exact fun index count same => (not_givesUp_reconciled _ ⟨_, _, same⟩).elim
  | unwritten found lacks refused failed =>
    exact fun index count same => (not_givesUp_writeError _ ⟨_, _, same⟩).elim
  | installed found lacks written =>
    exact fun index count same => (not_givesUp_reconciled _ ⟨_, _, same⟩).elim
  | conflict found lacks conflicted rest ih => exact ih

end Exhausted

/-- A session keeps the discipline. -/
theorem Session.disciplined {run : Materializer} {exchanges : List Exchange} {outcome : Outcome}
    (session : Session run exchanges outcome) : Disciplined run exchanges outcome := by
  -- Either the first query is all there is, or the attempts stand behind it.
  cases session with
  | answered decided =>
    refine ⟨⟨_, [], rfl, by simp⟩, by simp, .singleton _, by simp, by simp, by simp, by simp,
      ?_, ?_, ?_⟩
    · refine forall_suffix_cons (fun settles => ?_) forall_suffix_nil
      simp [Settles] at settles
    · simp [not_givesUp_answered, decided]
    · exact fun index count same => (not_givesUp_answered _ ⟨_, _, same⟩).elim
  | missing missing rest =>
    obtain ⟨queries, reads, writes, calls⟩ := rest.counts
    refine ⟨⟨_, _, rfl, fun _ => missing⟩, ?_, (Session.missing missing rest).reads_before_writes,
      ?_, ?_, ?_, ?_, ?_, ?_, rest.exhausted_eq⟩
    · simpa [List.countP_cons] using queries
    · simpa [List.countP_cons] using reads
    · simpa [List.countP_cons] using writes
    · simpa using calls
    · exact .cons (by simp) rest.conflicts
    · refine forall_suffix_cons (fun settles => ?_) ?_
      · simp [Settles] at settles
      · -- The first query is the other one.
        intro exchange later within settles
        simpa [List.countP_cons] using rest.settled exchange later within settles
    · simp [rest.givesUp_iff, missing]

section Counter

variable {σ : Type} {run : Materializer} {answer : Behaviour σ} {store state : σ}
  {earlier : List Exchange} {phase : Phase}

/-- Whether a run comes to a phase, with the exchanges and the store that lie behind it. -/
inductive Visits (run : Materializer) (answer : Behaviour σ) (store : σ) :
    List Exchange → Phase → σ → Prop where
  /-- Every run begins with the query of its view. -/
  | start : Visits run answer store [] .querying store
  /-- The answer to the call of a phase leads to the next one. -/
  | next {earlier : List Exchange} {phase later : Phase} {state : σ}
    (visited : Visits run answer store earlier phase state)
    (goes : (run.resume phase (answer state (run.call phase)).1).2 = .waiting later) :
    Visits run answer store (earlier ++ [(run.call phase, (answer state (run.call phase)).1)]) later
      (answer state (run.call phase)).2

/-- The phases that a run visits are the ones that its exchanges come from. -/
theorem Visits.exchanges_eq (visited : Visits run answer store earlier phase state) :
    (run.complete answer store).exchanges =
      earlier ++ (run.remainder answer state (.waiting phase)).1 := by
  induction visited with
  | start => rfl
  | next visited goes ih =>
    rw [ih, remainder_waiting, goes]
    simp

/-- Whether a phase has the attempts left that the conflicts so far leave of a budget. -/
def Counted (budget : Nat) (earlier : List Exchange) : Phase → Prop
  | .querying => earlier = []
  | .defining remaining => 0 < remaining ∧ remaining + conflictCount earlier = budget
  | .installing _ remaining => 0 < remaining ∧ remaining + conflictCount earlier = budget
  | .reconciling => True

/-- Adding an exchange counts one more conflict if it is one. -/
theorem conflictCount_append (earlier : List Exchange) (exchange : Exchange) :
    conflictCount (earlier ++ [exchange]) =
      conflictCount earlier + if TellsConflict exchange.2 then 1 else 0 := by
  simp [conflictCount, List.countP_append, List.countP_cons]

/-- An answer that tells of a missing view tells of no conflict. -/
theorem not_tellsConflict_of_tellsMissing {reply : Answer} (missing : TellsMissing reply) :
    ¬TellsConflict reply := by
  cases reply with
  | error error => exact missing.elim
  | ok reply => simp [tellsConflict_ok_iff, missing.1]

/-- An answer that brings a design document tells of no conflict. -/
theorem not_tellsConflict_of_readDocument {reply : Answer} {document : DesignDocument}
    (found : run.readDocument reply = .ok document) : ¬TellsConflict reply := by
  -- Only the statuses of a document and of an absent one are read.
  obtain ⟨reply, rfl, ⟨status, _⟩ | ⟨status, _⟩⟩ := of_readDocument found
  · simp [tellsConflict_ok_iff, status]
  · simp [tellsConflict_ok_iff, status]

/-- A run that goes on keeps count of its attempts. -/
theorem Counted.leads {reply : Answer} {next : Phase}
    (counted : Counted run.budget earlier phase) (leads : Leads run phase reply next) :
    Counted run.budget (earlier ++ [(run.call phase, reply)]) next := by
  -- Only a conflict is counted, and only a conflict uses up an attempt.
  cases leads with
  | missing missing left =>
    -- Nothing but the first query was made, and it met no conflict.
    have none : earlier = [] := counted
    subst none
    refine ⟨left, ?_⟩
    rw [conflictCount_append, if_neg (not_tellsConflict_of_tellsMissing missing)]
    rfl
  | present found holds => trivial
  | lacking found lacks =>
    refine ⟨counted.1, ?_⟩
    rw [conflictCount_append, if_neg (not_tellsConflict_of_readDocument found)]
    exact counted.2
  | written written => trivial
  | conflict conflicted left =>
    -- The conflict is one more, and one attempt fewer is left.
    obtain ⟨positive, balance⟩ := counted
    refine ⟨left, ?_⟩
    rw [conflictCount_append, if_pos conflicted]
    omega

/-- Every phase that a run visits has the attempts left that its conflicts leave. -/
theorem Visits.counted (visited : Visits run answer store earlier phase state) :
    Counted run.budget earlier phase := by
  -- The count holds at the start, and every answer that leads on keeps it.
  induction visited with
  | start => rfl
  | next visited goes ih => exact ih.leads (leads_of_resume goes)

end Counter

/--
Whatever a store answers, a run keeps the discipline, and its attempts never run below zero.

The attempts left when the design document is about to be read or written are at least one, and with
the conflicts so far they make up the budget.
-/
theorem complete_disciplined {σ : Type} (run : Materializer) (answer : Behaviour σ) (store : σ) :
    Disciplined run (run.complete answer store).exchanges (run.complete answer store).outcome ∧
      ∀ earlier phase state, Visits run answer store earlier phase state →
        (run.complete answer store).exchanges =
            earlier ++ (run.remainder answer state (.waiting phase)).1 ∧
          ∀ remaining, (phase = .defining remaining ∨
              ∃ document, phase = .installing document remaining) →
            0 < remaining ∧ remaining + conflictCount earlier = run.budget := by
  -- The session gives the discipline, and a phase that is visited carries its own count.
  refine ⟨(complete_session run answer store).disciplined, ?_⟩
  intro earlier phase state visited
  refine ⟨visited.exchanges_eq, ?_⟩
  rintro remaining (rfl | ⟨document, rfl⟩)
  · exact visited.counted
  · exact visited.counted

end DocView.Materializer
