import DocView.Materializer

/-!
The exchanges of one run with a store follow a fixed grammar, whatever the store answers: a query of
the view, then attempts to install it, then the same query again.
-/

namespace DocView

/-- A call of a store, and what came of it. -/
abbrev Exchange := StoreCall × Answer

/-- Whether a call asks a view. -/
def StoreCall.isQuery : StoreCall → Bool
  | queryView .. => true
  | _ => false

/-- Whether a call reads a document. -/
def StoreCall.isRead : StoreCall → Bool
  | getDocument _ => true
  | _ => false

/-- Whether a call writes a document. -/
def StoreCall.isWrite : StoreCall → Bool
  | putDocument .. => true
  | _ => false

/-- The status of an answer, if a reply came. -/
def Answer.status? : Answer → Option Nat
  | .ok reply => some reply.status
  | .error _ => none

/-- Whether an error tells what became of the attempts to install a view. -/
def QueryError.tellsOfInstall : QueryError → Bool
  | creationExhausted .. => true
  | installFailed .. => true
  | _ => false

/-- Whether an error is of a run that does not come to its second query. -/
def QueryError.precedesInstall : QueryError → Bool
  | queryFailed .. => true
  | creationExhausted .. => true
  | installFailed .. => true
  | _ => false

/-- What tells of the attempts comes before the second query. -/
theorem QueryError.tellsOfInstall_eq_false {error : QueryError}
    (later : error.precedesInstall = false) : error.tellsOfInstall = false := by
  cases error with
  | creationExhausted | installFailed => cases later
  | rejected | queryFailed | postInstallFailed | invalidResponse | store => rfl

/-- Rows that cannot be read tell nothing of what came before them. -/
theorem ViewRequest.precedesInstall_readRows {request : ViewRequest} {body : Json}
    {error : QueryError} (unread : request.readRows body = .error error) :
    error.precedesInstall = false := by
  unfold readRows at unread
  split at unread
  · cases unread
  · cases unread
    rfl

namespace Materializer

/-- The query of the view, which is the same at the beginning of a run and at its end. -/
def viewQuery (run : Materializer) : StoreCall := .queryView run.request.path run.request.query

/-- The reading of the design document. -/
def documentRead (run : Materializer) : StoreCall := .getDocument run.design

/-- The writing of a design document that was read, with the definition put in. -/
def documentWrite (run : Materializer) (document : DesignDocument) : StoreCall :=
  .putDocument document.id (document.setView run.request.definition).toJson

/-- Whether an answer tells that the view is missing. -/
def TellsMissing : Answer → Prop
  | .ok reply => reply.status = 404 ∧ reply.body.get? "error" = some (.string "not_found")
  | .error _ => False

/-- A reply is taken as telling of a missing view exactly if it does. -/
theorem tellsMissing_ok_iff {reply : Reply} :
    TellsMissing (.ok reply) ↔ reply.status = 404 ∧ ErrorBody.isNotFound reply.body = true := by
  rw [ErrorBody.isNotFound_iff]
  rfl

/-- What a run ends in that makes no call after the first query. -/
def answered (run : Materializer) : Answer → Outcome
  | .error error => .error (.store error)
  | .ok reply =>
    if reply.status = 200 then run.request.readRows reply.body
    else .error (.queryFailed run.request.url reply.status reply.body)

/-- The design document that the answer to its reading stands for. -/
def readDocument (run : Materializer) : Answer → Except QueryError DesignDocument
  | .error error => .error (.store error)
  | .ok reply => run.documentOf reply

/-- Whether an answer tells that the design document was written. -/
def TellsWritten (answer : Answer) : Prop := answer.status? = some 201 ∨ answer.status? = some 202

/-- Whether an answer tells that another write came first. -/
def TellsConflict (answer : Answer) : Prop := answer.status? = some 409

instance (answer : Answer) : Decidable (TellsConflict answer) :=
  inferInstanceAs (Decidable (answer.status? = some 409))

/-- A reply tells by one of two statuses that the document was written. -/
theorem tellsWritten_ok_iff {reply : Reply} :
    TellsWritten (.ok reply) ↔ reply.status = 201 ∨ reply.status = 202 := by
  simp [TellsWritten, Answer.status?]

/-- A reply tells by one status that another write came first. -/
theorem tellsConflict_ok_iff {reply : Reply} :
    TellsConflict (.ok reply) ↔ reply.status = 409 := by
  simp [TellsConflict, Answer.status?]

/-- Only a reply tells that the document was written. -/
theorem TellsWritten.exists_reply {answer : Answer} (written : TellsWritten answer) :
    ∃ reply, answer = .ok reply ∧ (reply.status = 201 ∨ reply.status = 202) := by
  cases answer with
  | error reason => simp [TellsWritten, Answer.status?] at written
  | ok reply => exact ⟨reply, rfl, tellsWritten_ok_iff.1 written⟩

/-- Only a reply tells that another write came first. -/
theorem TellsConflict.exists_reply {answer : Answer} (conflicted : TellsConflict answer) :
    ∃ reply, answer = .ok reply ∧ reply.status = 409 := by
  cases answer with
  | error reason => simp [TellsConflict, Answer.status?] at conflicted
  | ok reply => exact ⟨reply, rfl, tellsConflict_ok_iff.1 conflicted⟩

/-- The number of answers that tell that another write came first. -/
def conflictCount (exchanges : List Exchange) : Nat :=
  exchanges.countP fun exchange => TellsConflict exchange.2

/-- Why a write that neither went through nor met another one ends a run. -/
def writeError (run : Materializer) : Answer → QueryError
  | .error error => .store error
  | .ok reply => .installFailed run.request.index reply.status reply.body

/-- What a run ends in after the second query. -/
def reconciled (run : Materializer) : Answer → Outcome
  | .error error => .error (.store error)
  | .ok reply =>
    if reply.status = 200 then run.request.readRows reply.body
    else .error (.postInstallFailed run.request.url reply.status reply.body)

section Ends

variable {run : Materializer} {answer : Answer} {error : QueryError}

/-- A run that ends with its first query tells nothing of an installation. -/
theorem tellsOfInstall_answered (ended : run.answered answer = .error error) :
    error.tellsOfInstall = false := by
  -- The answer to a query is judged by its status and its rows, and neither tells of an install.
  cases answer with
  | error reason =>
    cases ended
    rfl
  | ok reply =>
    simp only [answered] at ended
    split at ended
    · exact QueryError.tellsOfInstall_eq_false (ViewRequest.precedesInstall_readRows ended)
    · cases ended
      rfl

/-- A run that ends with its second query tells nothing of what came before it. -/
theorem precedesInstall_reconciled (ended : run.reconciled answer = .error error) :
    error.precedesInstall = false := by
  -- The second query is judged by its own errors, and these come behind an install.
  cases answer with
  | error reason =>
    cases ended
    rfl
  | ok reply =>
    simp only [reconciled] at ended
    split at ended
    · exact ViewRequest.precedesInstall_readRows ended
    · cases ended
      rfl

/-- A run that ends with its second query tells nothing of an installation. -/
theorem tellsOfInstall_reconciled (ended : run.reconciled answer = .error error) :
    error.tellsOfInstall = false :=
  QueryError.tellsOfInstall_eq_false (precedesInstall_reconciled ended)

end Ends

/-- What a run exchanges from the next attempt on, with so many attempts left, and what it ends in. -/
inductive Attempts (run : Materializer) : Nat → List Exchange → Outcome → Prop where
  /-- No attempt is left. -/
  | exhausted :
    Attempts run 0 [] (.error (.creationExhausted run.request.index run.budget))
  /-- The design document cannot be read. -/
  | unread {remaining : Nat} {read : Answer} {error : QueryError}
    (failed : run.readDocument read = .error error) :
    Attempts run (remaining + 1) [(run.documentRead, read)] (.error error)
  /-- The design document holds the definition, so the view is queried again. -/
  | present {remaining : Nat} {read last : Answer} {document : DesignDocument}
    (found : run.readDocument read = .ok document)
    (holds : document.hasDefinition run.request.definition = true) :
    Attempts run (remaining + 1) [(run.documentRead, read), (run.viewQuery, last)]
      (run.reconciled last)
  /-- The design document cannot be written. -/
  | unwritten {remaining : Nat} {read write : Answer} {document : DesignDocument}
    (found : run.readDocument read = .ok document)
    (lacks : document.hasDefinition run.request.definition = false)
    (refused : ¬TellsWritten write) (failed : ¬TellsConflict write) :
    Attempts run (remaining + 1) [(run.documentRead, read), (run.documentWrite document, write)]
      (.error (run.writeError write))
  /-- The design document is written, so the view is queried again. -/
  | installed {remaining : Nat} {read write last : Answer} {document : DesignDocument}
    (found : run.readDocument read = .ok document)
    (lacks : document.hasDefinition run.request.definition = false)
    (written : TellsWritten write) :
    Attempts run (remaining + 1)
      [(run.documentRead, read), (run.documentWrite document, write), (run.viewQuery, last)]
      (run.reconciled last)
  /-- Another write came first, so the next attempt starts from the reading. -/
  | conflict {remaining : Nat} {read write : Answer} {document : DesignDocument}
    {later : List Exchange} {outcome : Outcome}
    (found : run.readDocument read = .ok document)
    (lacks : document.hasDefinition run.request.definition = false)
    (conflicted : TellsConflict write) (rest : Attempts run remaining later outcome) :
    Attempts run (remaining + 1)
      ((run.documentRead, read) :: (run.documentWrite document, write) :: later) outcome

/-- What a run exchanges from beginning to end, and what it ends in. -/
inductive Session (run : Materializer) : List Exchange → Outcome → Prop where
  /-- The first query decides. -/
  | answered {first : Answer} (decided : ¬TellsMissing first) :
    Session run [(run.viewQuery, first)] (run.answered first)
  /-- The view is missing, so the run tries to install it. -/
  | missing {first : Answer} {later : List Exchange} {outcome : Outcome}
    (missing : TellsMissing first) (rest : Attempts run run.budget later outcome) :
    Session run ((run.viewQuery, first) :: later) outcome

section Reading

variable {run : Materializer} {answer : Answer}

/-- A reading brings a design document if the document is absent or could be read. -/
theorem of_readDocument {document : DesignDocument}
    (found : run.readDocument answer = .ok document) :
    ∃ reply, answer = .ok reply ∧
      ((reply.status = 404 ∧ document = .fresh run.design) ∨
        (reply.status = 200 ∧ DesignDocument.ofJson? reply.body = .ok document)) := by
  -- Without a reply there is no document, and a reply is judged by its status.
  cases answer with
  | error error => cases found
  | ok reply =>
    refine ⟨reply, rfl, ?_⟩
    simp only [readDocument, documentOf] at found
    -- Only two statuses tell what is stored.
    split at found
    · rename_i status
      cases read : DesignDocument.ofJson? reply.body with
      | error error => simp [read] at found
      | ok document' => exact .inr ⟨status, by simpa [read] using found⟩
    · split at found
      · rename_i status
        exact .inl ⟨status, (Except.ok.inj found).symm⟩
      · cases found

/-- A reading brings no design document if no reply came, or one that does not hold it. -/
theorem of_readDocument_error {error : QueryError}
    (failed : run.readDocument answer = .error error) :
    (∃ reason, answer = .error reason ∧ error = .store reason) ∨
      ∃ reply, answer = .ok reply ∧
        error = .installFailed run.request.index reply.status reply.body ∧ reply.status ≠ 404 ∧
        (reply.status = 200 → ∃ reason, DesignDocument.ofJson? reply.body = .error reason) := by
  -- The store failed to answer, or its reply is judged by its status.
  cases answer with
  | error reason => exact .inl ⟨reason, rfl, (Except.error.inj failed).symm⟩
  | ok reply =>
    refine .inr ⟨reply, rfl, ?_⟩
    simp only [readDocument, documentOf] at failed
    -- A document that is absent is no failure, so the other statuses are left.
    split at failed
    · rename_i status
      cases read : DesignDocument.ofJson? reply.body with
      | ok document => simp [read] at failed
      | error reason =>
        have same : .installFailed run.request.index reply.status reply.body = error := by
          simpa [read] using failed
        exact ⟨same.symm, by simp [status], fun _ => ⟨reason, rfl⟩⟩
    · rename_i other
      split at failed
      · cases failed
      · rename_i present
        exact ⟨(Except.error.inj failed).symm, present, fun status => absurd status other⟩

end Reading

/-! Where each answer leads. -/

section Resume

variable {run : Materializer} {answer : Answer}

/-- A first answer that does not tell of a missing view ends the run. -/
theorem resume_querying_of_decided (decided : ¬TellsMissing answer) :
    (run.resume .querying answer).2 = .finished (run.answered answer) := by
  -- Both sides judge a reply by its status once a missing view is ruled out.
  cases answer with
  | error error => rfl
  | ok reply =>
    have found := mt tellsMissing_ok_iff.2 decided
    simp only [resume, onRows, answered, if_neg found]
    split <;> rfl

/-- A missing view starts the first attempt. -/
theorem resume_querying_of_missing (missing : TellsMissing answer) :
    (run.resume .querying answer).2 = (run.attempt run.budget).2 := by
  cases answer with
  | error error => exact missing.elim
  | ok reply =>
    have absent := tellsMissing_ok_iff.1 missing
    simp [resume, onRows, absent]

/-- A design document that cannot be read ends the run. -/
theorem resume_defining_of_error {remaining : Nat} {error : QueryError}
    (failed : run.readDocument answer = .error error) :
    (run.resume (.defining remaining) answer).2 = .finished (.error error) := by
  cases answer with
  | error reason => cases failed; rfl
  | ok reply =>
    simp only [readDocument] at failed
    simp [resume, onDocument, failed, fail]

/-- A definition that is there already leads to the second query. -/
theorem resume_defining_of_present {remaining : Nat} {document : DesignDocument}
    (found : run.readDocument answer = .ok document)
    (holds : document.hasDefinition run.request.definition = true) :
    (run.resume (.defining remaining) answer).2 = .waiting .reconciling := by
  cases answer with
  | error reason => cases found
  | ok reply =>
    simp only [readDocument] at found
    simp [resume, onDocument, found, withDocument, holds]

/-- A definition that is not there yet is put in and written. -/
theorem resume_defining_of_lacking {remaining : Nat} {document : DesignDocument}
    (found : run.readDocument answer = .ok document)
    (lacks : document.hasDefinition run.request.definition = false) :
    (run.resume (.defining remaining) answer).2 =
      .waiting (.installing (document.setView run.request.definition) remaining) := by
  cases answer with
  | error reason => cases found
  | ok reply =>
    simp only [readDocument] at found
    simp [resume, onDocument, found, withDocument, lacks]

/-- A write that went through leads to the second query. -/
theorem resume_installing_of_written {document : DesignDocument} {remaining : Nat}
    (written : TellsWritten answer) :
    (run.resume (.installing document remaining) answer).2 = .waiting .reconciling := by
  obtain ⟨reply, rfl, status⟩ := written.exists_reply
  simp [resume, onWritten, status]

/-- A write that met another one leads to the next attempt, with one fewer left. -/
theorem resume_installing_of_conflict {document : DesignDocument} {remaining : Nat}
    (conflicted : TellsConflict answer) :
    (run.resume (.installing document remaining) answer).2 = (run.attempt (remaining - 1)).2 := by
  obtain ⟨reply, rfl, status⟩ := conflicted.exists_reply
  simp [resume, onWritten, status]

/-- A write that neither went through nor met another one ends the run. -/
theorem resume_installing_of_failed {document : DesignDocument} {remaining : Nat}
    (refused : ¬TellsWritten answer) (failed : ¬TellsConflict answer) :
    (run.resume (.installing document remaining) answer).2 =
      .finished (.error (run.writeError answer)) := by
  cases answer with
  | error reason => rfl
  | ok reply =>
    rw [tellsWritten_ok_iff] at refused
    rw [tellsConflict_ok_iff] at failed
    simp [resume, onWritten, refused, failed, fail, writeError]

/-- The second answer ends the run. -/
theorem resume_reconciling (run : Materializer) (answer : Answer) :
    (run.resume .reconciling answer).2 = .finished (run.reconciled answer) := by
  cases answer with
  | error reason => rfl
  | ok reply =>
    simp only [resume, onReconciled, reconciled]
    split <;> rfl

/-- Without an attempt left, the run is over. -/
theorem attempt_zero (run : Materializer) :
    (run.attempt 0).2 = .finished (.error (.creationExhausted run.request.index run.budget)) := by
  simp [attempt]

/-- An attempt begins with the reading of the design document. -/
theorem attempt_succ (run : Materializer) (remaining : Nat) :
    (run.attempt (remaining + 1)).2 = .waiting (.defining (remaining + 1)) := by
  simp [attempt]

/-- The phase that an answer leads to, if the run goes on. -/
inductive Leads (run : Materializer) : Phase → Answer → Phase → Prop where
  /-- A missing view is to be installed. -/
  | missing {answer : Answer} (missing : TellsMissing answer) (left : 0 < run.budget) :
    Leads run .querying answer (.defining run.budget)
  /-- A definition that is there needs no write. -/
  | present {answer : Answer} {remaining : Nat} {document : DesignDocument}
    (found : run.readDocument answer = .ok document)
    (holds : document.hasDefinition run.request.definition = true) :
    Leads run (.defining remaining) answer .reconciling
  /-- A definition that is not there is to be written. -/
  | lacking {answer : Answer} {remaining : Nat} {document : DesignDocument}
    (found : run.readDocument answer = .ok document)
    (lacks : document.hasDefinition run.request.definition = false) :
    Leads run (.defining remaining) answer
      (.installing (document.setView run.request.definition) remaining)
  /-- A definition that was written can be asked for. -/
  | written {answer : Answer} {document : DesignDocument} {remaining : Nat}
    (written : TellsWritten answer) : Leads run (.installing document remaining) answer .reconciling
  /-- A write that met another one is tried again. -/
  | conflict {answer : Answer} {document : DesignDocument} {remaining : Nat}
    (conflicted : TellsConflict answer) (left : 0 < remaining - 1) :
    Leads run (.installing document remaining) answer (.defining (remaining - 1))

/-- An attempt that begins has attempts left, and reads the design document. -/
theorem attempt_waiting {remaining : Nat} {next : Phase}
    (goes : (run.attempt remaining).2 = .waiting next) :
    0 < remaining ∧ next = .defining remaining := by
  -- Without an attempt left, a run does not wait but ends.
  cases remaining with
  | zero =>
    rw [attempt_zero] at goes
    cases goes
  | succ remaining =>
    rw [attempt_succ] at goes
    cases goes
    exact ⟨Nat.succ_pos remaining, rfl⟩

/-- A run goes on only where its answers lead. -/
theorem leads_of_resume {phase next : Phase}
    (goes : (run.resume phase answer).2 = .waiting next) : Leads run phase answer next := by
  -- Each phase goes on after some answers only, and the lemmas above say after which.
  cases phase with
  | querying =>
    by_cases missing : TellsMissing answer
    · rw [resume_querying_of_missing missing] at goes
      obtain ⟨left, rfl⟩ := attempt_waiting goes
      exact .missing missing left
    · rw [resume_querying_of_decided missing] at goes
      cases goes
  | defining remaining =>
    cases found : run.readDocument answer with
    | error error =>
      rw [resume_defining_of_error found] at goes
      cases goes
    | ok document =>
      cases held : document.hasDefinition run.request.definition with
      | true =>
        rw [resume_defining_of_present found held] at goes
        cases goes
        exact .present found held
      | false =>
        rw [resume_defining_of_lacking found held] at goes
        cases goes
        exact .lacking found held
  | installing document remaining =>
    by_cases written : TellsWritten answer
    · rw [resume_installing_of_written written] at goes
      cases goes
      exact .written written
    · by_cases conflicted : TellsConflict answer
      · rw [resume_installing_of_conflict conflicted] at goes
        obtain ⟨left, rfl⟩ := attempt_waiting goes
        exact .conflict conflicted left
      · rw [resume_installing_of_failed written conflicted] at goes
        cases goes
  | reconciling =>
    rw [resume_reconciling] at goes
    cases goes

end Resume

section Run

variable {σ : Type}

/-- What a run still exchanges with a store from where it stands, and what it ends in. -/
def remainder (run : Materializer) (answer : Behaviour σ) (store : σ) :
    Progress → List Exchange × Outcome
  | .waiting phase =>
    ((run.runFrom answer phase store).exchanges, (run.runFrom answer phase store).outcome)
  | .finished outcome => ([], outcome)

/-- A finished run makes no call. -/
@[simp] theorem remainder_finished (run : Materializer) (answer : Behaviour σ) (store : σ)
    (outcome : Outcome) : run.remainder answer store (.finished outcome) = ([], outcome) :=
  rfl

/-- A waiting run makes the call of its phase, and goes on where the answer leads. -/
theorem remainder_waiting (run : Materializer) (answer : Behaviour σ) (store : σ) (phase : Phase) :
    run.remainder answer store (.waiting phase) =
      ((run.call phase, (answer store (run.call phase)).1) ::
          (run.remainder answer (answer store (run.call phase)).2
            (run.resume phase (answer store (run.call phase)).1).2).1,
        (run.remainder answer (answer store (run.call phase)).2
          (run.resume phase (answer store (run.call phase)).1).2).2) := by
  -- What a run does from a phase on is unfolded once.
  simp only [remainder]
  rw [runFrom]
  split <;> rename_i resumed <;> simp [resumed, Record.after]

/-- What a run ends in from a phase on, and the store that it leaves. -/
def ending (run : Materializer) (answer : Behaviour σ) (phase : Phase) (store : σ) : Outcome × σ :=
  ((run.runFrom answer phase store).outcome, (run.runFrom answer phase store).store)

/-- A run that goes on ends as it does from the next phase on. -/
theorem ending_of_waiting {run : Materializer} {answer : Behaviour σ} {phase next : Phase}
    {store : σ} (goes : (run.resume phase (answer store (run.call phase)).1).2 = .waiting next) :
    run.ending answer phase store = run.ending answer next (answer store (run.call phase)).2 := by
  rw [ending, runFrom]
  split <;> rename_i resumed <;> rw [resumed] at goes <;> cases goes
  rfl

/-- A run that is done leaves the store as its last call does. -/
theorem ending_of_finished {run : Materializer} {answer : Behaviour σ} {phase : Phase} {store : σ}
    {outcome : Outcome}
    (ends : (run.resume phase (answer store (run.call phase)).1).2 = .finished outcome) :
    run.ending answer phase store = (outcome, (answer store (run.call phase)).2) := by
  rw [ending, runFrom]
  split <;> rename_i resumed <;> rw [resumed] at ends <;> cases ends
  rfl

/-- A run begins with the query of its view. -/
theorem call_querying (run : Materializer) : run.call .querying = run.viewQuery := rfl

/-- A run reads its design document before each attempt. -/
theorem call_defining (run : Materializer) (remaining : Nat) :
    run.call (.defining remaining) = run.documentRead :=
  rfl

/-- A run writes the document that it read, with the definition put in. -/
theorem call_installing (run : Materializer) (document : DesignDocument) (remaining : Nat) :
    run.call (.installing (document.setView run.request.definition) remaining) =
      run.documentWrite document :=
  rfl

/-- The second query is the last call of a run. -/
theorem remainder_reconciling (run : Materializer) (answer : Behaviour σ) (store : σ) :
    run.remainder answer store (.waiting .reconciling) =
      ([(run.viewQuery, (answer store run.viewQuery).1)],
        run.reconciled (answer store run.viewQuery).1) := by
  simp only [remainder_waiting, resume_reconciling, remainder_finished]
  rfl

/-- The attempts of a run follow the grammar. -/
theorem remainder_attempt (run : Materializer) (answer : Behaviour σ) (remaining : Nat) :
    ∀ store, Attempts run remaining (run.remainder answer store (run.attempt remaining).2).1
      (run.remainder answer store (run.attempt remaining).2).2 := by
  -- Only a conflict leads to another attempt, and it leaves one attempt fewer.
  induction remaining with
  | zero =>
    intro store
    rw [attempt_zero]
    exact .exhausted
  | succ remaining ih =>
    intro store
    rw [attempt_succ, remainder_waiting]
    rw [call_defining]
    cases found : run.readDocument (answer store run.documentRead).1 with
    | error error =>
      rw [resume_defining_of_error found]
      exact .unread found
    | ok document =>
      cases held : document.hasDefinition run.request.definition with
      | true =>
        rw [resume_defining_of_present found held, remainder_reconciling]
        exact .present found held
      | false =>
        rw [resume_defining_of_lacking found held, remainder_waiting, call_installing]
        -- What the write is answered decides whether the run goes on, and how.
        by_cases written :
          TellsWritten (answer (answer store run.documentRead).2 (run.documentWrite document)).1
        · rw [resume_installing_of_written written, remainder_reconciling]
          exact .installed found held written
        · by_cases conflicted :
            TellsConflict (answer (answer store run.documentRead).2 (run.documentWrite document)).1
          · rw [resume_installing_of_conflict conflicted, Nat.add_sub_cancel]
            exact .conflict found held conflicted (ih _)
          · rw [resume_installing_of_failed written conflicted]
            exact .unwritten found held written conflicted

/-- Every run follows the grammar, whatever the store answers. -/
theorem complete_session (run : Materializer) (answer : Behaviour σ) (store : σ) :
    Session run (run.complete answer store).exchanges (run.complete answer store).outcome := by
  -- The first query is unfolded, and the attempts stand behind it.
  have whole : run.remainder answer store (.waiting .querying) =
      ((run.complete answer store).exchanges, (run.complete answer store).outcome) := rfl
  rw [remainder_waiting] at whole
  obtain ⟨exchanges, outcome⟩ := Prod.mk.inj whole
  rw [← exchanges, ← outcome, call_querying]
  by_cases missing : TellsMissing (answer store run.viewQuery).1
  · rw [resume_querying_of_missing missing]
    exact .missing missing (remainder_attempt run answer run.budget _)
  · rw [resume_querying_of_decided missing]
    exact .answered missing

/-- The store that calls leave, one after the other. -/
def leaves (answer : Behaviour σ) (store : σ) (exchanges : List Exchange) : σ :=
  exchanges.foldl (fun store exchange => (answer store exchange.1).2) store

/-- A run leaves the store that its calls leave. -/
theorem store_runFrom (run : Materializer) (answer : Behaviour σ) (phase : Phase) (store : σ) :
    (run.runFrom answer phase store).store =
      leaves answer store (run.runFrom answer phase store).exchanges := by
  -- Either the first call is the last one, or the run goes on from the store behind it.
  induction phase, store using Materializer.runFrom.induct run answer with
  | case1 phase store call answered events outcome resumed =>
    rw [runFrom]
    split <;> rename_i decided <;> rw [decided] at resumed <;> cases resumed
    rfl
  | case2 phase store call answered events next resumed ih =>
    rw [runFrom]
    split <;> rename_i decided <;> rw [decided] at resumed <;> cases resumed
    exact ih

/-- A run from its beginning leaves the store that its calls leave. -/
theorem store_complete (run : Materializer) (answer : Behaviour σ) (store : σ) :
    (run.complete answer store).store =
      leaves answer store (run.complete answer store).exchanges :=
  run.store_runFrom answer .querying store

end Run

end Materializer

end DocView
