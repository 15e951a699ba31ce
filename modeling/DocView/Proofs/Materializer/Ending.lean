import DocView.Proofs.Materializer.Discipline

/-!
The last exchange of a run decides what the run ends in. No failure before it is passed over, and
no run reports one that it did not meet.
-/

namespace DocView.Materializer

/-- The address at which a run asks its view. -/
def address (run : Materializer) : String := run.request.path ++ "?" ++ run.request.query

/--
What a run ends in if an exchange is its last one, or nothing if the run goes on behind it.

The first query and the second one read alike, so it is told which of them an exchange may be.
-/
def verdict? (run : Materializer) (first : Bool) : Exchange → Option Outcome
  | (_, .error error) => some (.error (.store error))
  | (.queryView .., .ok reply) =>
    if reply.status = 200 then
      match ViewResponse.ofJson? reply.body with
      | .ok response => some (.ok response)
      | .error fault => some (.error (.invalidResponse run.address fault.message))
    else if first = false then
      some (.error (.postInstallFailed run.address reply.status reply.body))
    else if reply.status = 404 ∧ reply.body.get? "error" = some (.string "not_found") then
      -- Without any attempt, a missing view stays missing.
      if run.budget = 0 then some (.error (.creationExhausted run.request.index run.budget))
      else none
    else some (.error (.queryFailed run.address reply.status reply.body))
  | (.getDocument _, .ok reply) =>
    if reply.status = 404 then none
    else if reply.status = 200 ∧ (DesignDocument.ofJson? reply.body).isOk = true then none
    else some (.error (.installFailed run.request.index reply.status reply.body))
  | (.putDocument .., .ok reply) =>
    if reply.status = 201 ∨ reply.status = 202 then none
    -- The last attempt ends the run, but an earlier one is followed by another.
    else if reply.status = 409 then
      some (.error (.creationExhausted run.request.index run.budget))
    else some (.error (.installFailed run.request.index reply.status reply.body))

/-- Whether an exchange is a write that met another one. -/
def IsConflict (exchange : Exchange) : Prop :=
  exchange.1.isWrite = true ∧ TellsConflict exchange.2

/-- How what a run ends in hangs together with its exchanges. -/
structure Concluded (run : Materializer) (exchanges : List Exchange) (outcome : Outcome) :
    Prop where
  /-- The last exchange decides. -/
  decided : ∃ earlier last, exchanges = earlier ++ [last] ∧
    run.verdict? earlier.isEmpty last = some outcome
  /-- Before the last exchange nothing would end a run but a conflict, which may be tried again. -/
  passed : ∀ earlier exchange next later, exchanges = earlier ++ exchange :: next :: later →
    run.verdict? earlier.isEmpty exchange = none ∨ IsConflict exchange
  /-- Once the definition is there, no error tells that the view or the definition is not. -/
  settled : ∀ exchange ∈ exchanges, run.Settles exchange →
    ∀ error, outcome = .error error → error.precedesInstall = false

section Verdict

variable {run : Materializer} {answer : Answer} {document : DesignDocument}

/-- Errors show the address at which the view is asked. -/
theorem url_eq_address (run : Materializer) : run.request.url = run.address := rfl

/-- The body of a 200 is read, or the run fails with what is wrong with it. -/
theorem some_readRows (run : Materializer) (body : Json) :
    some (run.request.readRows body) =
      match ViewResponse.ofJson? body with
      | .ok response => some (.ok response)
      | .error fault => some (.error (.invalidResponse run.address fault.message)) := by
  rw [ViewRequest.readRows, url_eq_address]
  cases ViewResponse.ofJson? body <;> rfl

/-- The first query ends a run unless it tells of a missing view. -/
theorem verdict?_first (decided : ¬TellsMissing answer) :
    run.verdict? true (run.viewQuery, answer) = some (run.answered answer) := by
  -- The answer is a failure of the store or a reply that does not tell of a missing view.
  cases answer with
  | error error => rfl
  | ok reply =>
    -- Without a missing view, both sides tell apart a 200 from all else.
    have known : ¬(reply.status = 404 ∧ reply.body.get? "error" = some (.string "not_found")) :=
      decided
    simp only [verdict?, viewQuery, answered, if_neg known, ← some_readRows, url_eq_address]
    split <;> simp

/-- A missing view ends a run that has no attempt, and no other one. -/
theorem verdict?_missing (missing : TellsMissing answer) :
    run.verdict? true (run.viewQuery, answer) =
      if run.budget = 0 then some (.error (.creationExhausted run.request.index run.budget))
      else none := by
  -- Only a reply can tell that the view is missing.
  cases answer with
  | error error => exact missing.elim
  | ok reply =>
    -- A 404 is no 200, so the budget alone is left to decide.
    have absent : reply.status = 404 ∧ reply.body.get? "error" = some (.string "not_found") := missing
    simp [verdict?, viewQuery, absent]

/-- The second query ends a run whatever its answer is. -/
theorem verdict?_second (run : Materializer) (answer : Answer) :
    run.verdict? false (run.viewQuery, answer) = some (run.reconciled answer) := by
  -- The store may fail to answer, and a reply is judged by its status alone.
  cases answer with
  | error error => rfl
  | ok reply =>
    -- Here a missing view is a failure like any other.
    simp only [verdict?, viewQuery, reconciled, ← some_readRows, url_eq_address]
    split <;> simp

/-- A reading that brings no design document ends a run. -/
theorem verdict?_unread {error : QueryError} (failed : run.readDocument answer = .error error) :
    run.verdict? false (run.documentRead, answer) = some (.error error) := by
  -- A reading fails with the store itself, or with a reply that brings no document.
  rcases of_readDocument_error failed with ⟨reason, rfl, rfl⟩ | ⟨reply, rfl, rfl, present, held⟩
  · rfl
  · -- What was found could not be read, or the status is neither of the two that are known.
    have unread : ¬(reply.status = 200 ∧ (DesignDocument.ofJson? reply.body).isOk = true) := by
      rintro ⟨found, read⟩
      obtain ⟨reason, foreign⟩ := held found
      rw [foreign] at read
      cases read
    simp only [verdict?, documentRead, if_neg present, if_neg unread]

/-- A run goes on behind a reading that brings a design document. -/
theorem verdict?_read (found : run.readDocument answer = .ok document) :
    run.verdict? false (run.documentRead, answer) = none := by
  -- The document is a new one, or it was read from the reply.
  obtain ⟨reply, rfl, ⟨absent, _⟩ | ⟨status, read⟩⟩ := of_readDocument found
  · simp [verdict?, documentRead, absent]
  · have held : reply.status = 200 ∧ (DesignDocument.ofJson? reply.body).isOk = true :=
      ⟨status, by rw [read]; rfl⟩
    simp only [verdict?, documentRead, if_pos held, ite_self]

/-- A run goes on behind a write that went through. -/
theorem verdict?_written (written : TellsWritten answer) :
    run.verdict? false (run.documentWrite document, answer) = none := by
  obtain ⟨reply, rfl, status⟩ := written.exists_reply
  simp [verdict?, documentWrite, status]

/-- A conflict behind which no attempt is left uses up the attempts. -/
theorem verdict?_conflict (conflicted : TellsConflict answer) :
    run.verdict? false (run.documentWrite document, answer) =
      some (.error (.creationExhausted run.request.index run.budget)) := by
  -- The status of a conflict is none of the two of a write that went through.
  obtain ⟨reply, rfl, status⟩ := conflicted.exists_reply
  simp [verdict?, documentWrite, status]

/-- A write that neither went through nor met another one ends a run. -/
theorem verdict?_unwritten (refused : ¬TellsWritten answer) (failed : ¬TellsConflict answer) :
    run.verdict? false (run.documentWrite document, answer) =
      some (.error (run.writeError answer)) := by
  cases answer with
  | error reason => rfl
  | ok reply =>
    rw [tellsWritten_ok_iff] at refused
    rw [tellsConflict_ok_iff] at failed
    simp [verdict?, documentWrite, refused, failed, writeError]

end Verdict

section Grammar

variable {run : Materializer} {remaining : Nat} {exchanges : List Exchange} {outcome : Outcome}

/-- Attempts without any exchange are none. -/
theorem Attempts.of_nil (attempts : Attempts run remaining [] outcome) :
    remaining = 0 ∧ outcome = .error (.creationExhausted run.request.index run.budget) := by
  -- Every other arm begins with a reading.
  cases attempts with
  | exhausted => exact ⟨rfl, rfl⟩

/-- The last exchange of the attempts decides. -/
theorem Attempts.decided (attempts : Attempts run remaining exchanges outcome)
    (some : exchanges ≠ []) :
    ∃ earlier last, exchanges = earlier ++ [last] ∧ run.verdict? false last = .some outcome := by
  -- Every arm but the conflict ends with the exchange that its outcome is taken from.
  induction attempts with
  | exhausted => exact absurd rfl some
  | unread failed => exact ⟨[], _, rfl, verdict?_unread failed⟩
  | present found holds => exact ⟨[_], _, rfl, verdict?_second run _⟩
  | unwritten found lacks refused failed => exact ⟨[_], _, rfl, verdict?_unwritten refused failed⟩
  | installed found lacks written => exact ⟨[_, _], _, rfl, verdict?_second run _⟩
  | @conflict remaining read write document later outcome found lacks conflicted rest ih =>
    by_cases spent : later = []
    · -- The conflict was the last one.
      subst spent
      obtain ⟨_, rfl⟩ := rest.of_nil
      exact ⟨[_], _, rfl, verdict?_conflict conflicted⟩
    · obtain ⟨earlier, last, rfl, verdict⟩ := ih spent
      exact ⟨_ :: _ :: earlier, last, rfl, verdict⟩

/-- Nothing but a conflict is passed over by the attempts. -/
theorem Attempts.passed (attempts : Attempts run remaining exchanges outcome) :
    exchanges.IsChain fun exchange _ => run.verdict? false exchange = none ∨ IsConflict exchange := by
  -- The reading and the write of an attempt are looked at, unless they are its last exchange.
  induction attempts with
  | exhausted => exact .nil
  | unread failed => exact .singleton _
  | present found holds => exact .cons_cons (.inl (verdict?_read found)) (.singleton _)
  | unwritten found lacks refused failed =>
    exact .cons_cons (.inl (verdict?_read found)) (.singleton _)
  | installed found lacks written =>
    exact .cons_cons (.inl (verdict?_read found))
      (.cons_cons (.inl (verdict?_written written)) (.singleton _))
  | conflict found lacks conflicted rest ih =>
    exact .cons_cons (.inl (verdict?_read found))
      (List.isChain_cons.2 ⟨fun _ _ => .inr ⟨rfl, conflicted⟩, ih⟩)

/-- The last exchange of a session decides. -/
theorem Session.decided (session : Session run exchanges outcome) :
    ∃ earlier last, exchanges = earlier ++ [last] ∧
      run.verdict? earlier.isEmpty last = some outcome := by
  -- Either the first query decided, or the last exchange of the attempts did.
  cases session with
  | answered decided => exact ⟨[], _, rfl, verdict?_first decided⟩
  | @missing first later outcome missing rest =>
    by_cases idle : later = []
    · -- There is no attempt, so the first query is the only exchange.
      subst idle
      obtain ⟨spent, rfl⟩ := rest.of_nil
      exact ⟨[], _, rfl, by rw [List.isEmpty_nil, verdict?_missing missing, if_pos spent]⟩
    · obtain ⟨earlier, last, rfl, verdict⟩ := rest.decided idle
      exact ⟨_ :: earlier, last, rfl, verdict⟩

/-- Nothing but a conflict is passed over by a session. -/
theorem Session.passed (session : Session run exchanges outcome) :
    ∀ earlier exchange next later, exchanges = earlier ++ exchange :: next :: later →
      run.verdict? earlier.isEmpty exchange = none ∨ IsConflict exchange := by
  -- What has another exchange behind it is the first query, or belongs to the attempts.
  intro earlier exchange next later split
  cases session with
  | answered decided =>
    -- A single exchange has none before it.
    have lengths := congrArg List.length split
    simp at lengths
    omega
  | missing missing rest =>
    cases earlier with
    | nil =>
      obtain ⟨rfl, rfl⟩ := List.cons.inj split
      -- Something follows the first query, so there are attempts.
      have left : run.budget ≠ 0 := by
        intro spent
        rw [spent] at rest
        cases rest
      exact .inl (by rw [List.isEmpty_nil, verdict?_missing missing, if_neg left])
    | cons opening earlier =>
      obtain ⟨_, rfl⟩ := List.cons.inj split
      exact (List.isChain_append_cons_cons.1 rest.passed).2.1

/-- A session in which the definition comes to be there ends with its second query. -/
theorem Session.settled (session : Session run exchanges outcome) :
    ∀ exchange ∈ exchanges, run.Settles exchange →
      ∀ error, outcome = .error error → error.precedesInstall = false := by
  -- After a settled attempt only the second query is left, and its verdict is the outcome.
  intro exchange member settles error ended
  obtain ⟨before, later, rfl⟩ := List.append_of_mem member
  obtain ⟨⟨answer, rfl⟩, _⟩ :=
    session.disciplined.settled exchange later ⟨before, rfl⟩ settles
  obtain ⟨earlier, last, split, verdict⟩ := session.decided
  -- The second query is the last exchange, and it is not the first one.
  rw [List.append_cons] at split
  obtain ⟨rfl, same⟩ := List.append_inj' split rfl
  obtain ⟨rfl, _⟩ := List.cons.inj same
  have later : (before ++ [exchange]).isEmpty = false := by simp
  rw [later, verdict?_second, ended] at verdict
  exact precedesInstall_reconciled (Option.some.inj verdict)

end Grammar

/-- Whatever a store answers, the last exchange decides what a run ends in. -/
theorem complete_concluded {σ : Type} (run : Materializer) (answer : Behaviour σ) (store : σ) :
    Concluded run (run.complete answer store).exchanges (run.complete answer store).outcome := by
  have session := complete_session run answer store
  exact ⟨session.decided, session.passed, session.settled⟩

end DocView.Materializer
