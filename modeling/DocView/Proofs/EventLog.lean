import DocView.Proofs.Materializer.Ending
import DocView.Proofs.Query
import DocView.Store.Scripted

/-!
What a query records is told by its exchanges and by what it ends in. Every exchange has events of
its own, and the grammar of the exchanges puts them in the order in which they are read.
-/

namespace DocView

namespace Materializer

/-- Whether a view is missing is told by the status and the body of a reply. -/
instance decidableTellsMissing : (answer : Answer) → Decidable (TellsMissing answer)
  | .ok reply =>
    inferInstanceAs
      (Decidable (reply.status = 404 ∧ reply.body.get? "error" = some (.string "not_found")))
  | .error _ => isFalse not_false

instance (answer : Answer) : Decidable (TellsWritten answer) :=
  inferInstanceAs (Decidable (answer.status? = some 201 ∨ answer.status? = some 202))

instance (exchange : Exchange) : Decidable (IsConflict exchange) :=
  inferInstanceAs (Decidable (exchange.1.isWrite = true ∧ TellsConflict exchange.2))

/-- Whether an outcome tells that the attempts were used up. -/
def isExhausted : Outcome → Bool
  | .error (.creationExhausted ..) => true
  | _ => false

/-- The attempts were used up exactly if the run gave up. -/
theorem isExhausted_iff {outcome : Outcome} : isExhausted outcome = true ↔ GivesUp outcome := by
  -- The error that gives up is the only one that the match names.
  constructor
  · intro exhausted
    unfold isExhausted at exhausted
    split at exhausted
    · exact ⟨_, _, rfl⟩
    · cases exhausted
  · rintro ⟨index, attempts, rfl⟩
    rfl

/-- Whether an exchange wrote the design document. -/
def isInstall (exchange : Exchange) : Bool := exchange.1.isWrite && TellsWritten exchange.2

/-- Whether an exchange read a design document that holds a definition. -/
def finds (definition : ViewDefinition) : Exchange → Bool
  | (.getDocument _, .ok reply) =>
    match DesignDocument.ofJson? reply.body with
    | .ok document =>
      reply.status = 200 && document.views.get? definition.name = some definition.toJson
    | .error _ => false
  | _ => false

/-- Whether an exchange queried the view with success. -/
def isAnswered (exchange : Exchange) : Bool :=
  exchange.1.isQuery && exchange.2.status? = some 200

/-- The event that closes the attempts, of which there is at most one. -/
def settlement (definition : ViewDefinition) (exchanges : List Exchange) (outcome : Outcome) :
    List Event :=
  (if exchanges.any isInstall then [.indexInstalled] else [])
    ++ (if exchanges.any (finds definition) then [.indexAlreadyPresent] else [])
    ++ (if isExhausted outcome then [.indexInstallExhausted] else [])

/-- The events of a run, read off its exchanges and what it ends in. -/
def log (definition : ViewDefinition) (exchanges : List Exchange) (outcome : Outcome) :
    List Event :=
  [.viewQuery]
    ++ (if exchanges.head?.any (fun first => TellsMissing first.2)
      then [.viewMissing, .indexDefined] else [])
    ++ List.replicate (exchanges.countP (IsConflict ·)) .indexInstallConflict
    ++ settlement definition exchanges outcome
    -- The first exchange is a query as well, so only those behind it are looked at.
    ++ (if exchanges.tail.any isAnswered then [.viewReconciled] else [])

/-- The events of one exchange; the first query and the second one have different ones. -/
def told (definition : ViewDefinition) (first : Bool) (exchange : Exchange) : List Event :=
  match exchange.1 with
  | .queryView .. =>
    if first then if TellsMissing exchange.2 then [.viewMissing, .indexDefined] else []
    else if isAnswered exchange then [.viewReconciled] else []
  | .getDocument _ => if finds definition exchange then [.indexAlreadyPresent] else []
  | .putDocument .. =>
    if isInstall exchange then [.indexInstalled]
    else if IsConflict exchange then [.indexInstallConflict] else []

/-- The event of what a run ends in, which only a run that gives up has. -/
def lastWord (outcome : Outcome) : List Event :=
  if isExhausted outcome then [.indexInstallExhausted] else []

/-- The event of the end of a run where the run has come to its end. -/
def endWord : Progress → List Event
  | .waiting _ => []
  | .finished outcome => lastWord outcome

section Step

variable {run : Materializer} {answer : Answer}

/-- A run that does not give up has not used up its attempts. -/
theorem isExhausted_eq_false {outcome : Outcome} (left : ¬GivesUp outcome) :
    isExhausted outcome = false :=
  Bool.eq_false_iff.2 (mt isExhausted_iff.1 left)

/-- A run that does not give up has no event of its end. -/
theorem lastWord_of_not_givesUp {outcome : Outcome} (left : ¬GivesUp outcome) :
    lastWord outcome = [] := by
  rw [lastWord, isExhausted_eq_false left]
  rfl

/-- Only attempts of which none is left have an event. -/
theorem events_attempt (run : Materializer) (remaining : Nat) :
    (run.attempt remaining).1 = endWord (run.attempt remaining).2 := by
  -- The event and the error of attempts that are used up come together.
  unfold attempt
  split <;> rfl

/-- The first query has the events of a missing view. -/
theorem events_querying :
    (run.resume .querying answer).1 =
      (if TellsMissing answer then [.viewMissing, .indexDefined] else []) ++
        endWord (run.resume .querying answer).2 := by
  -- A missing view is the one answer that lets the run go on, so the cases are whether it is told.
  by_cases missing : TellsMissing answer
  · -- What follows the two events is told by the attempt that begins.
    rw [if_pos missing, resume_querying_of_missing missing, ← events_attempt]
    cases answer with
    | error error => exact missing.elim
    | ok reply =>
      have absent := tellsMissing_ok_iff.1 missing
      simp [resume, onRows, absent]
  · rw [if_neg missing, resume_querying_of_decided missing, endWord,
      lastWord_of_not_givesUp (not_givesUp_answered answer)]
    cases answer with
    | error error => rfl
    | ok reply =>
      have decided := mt tellsMissing_ok_iff.2 missing
      simp only [resume, onRows, if_neg decided]
      split <;> rfl

/-- A reading that brings a document finds what the document holds. -/
theorem finds_of_readDocument {document : DesignDocument}
    (found : run.readDocument answer = .ok document) (definition : ViewDefinition) :
    finds definition (run.documentRead, answer) = document.hasDefinition definition := by
  -- A document is taken from a 404 as a new one, or from the body of a 200.
  obtain ⟨reply, rfl, ⟨absent, rfl⟩ | ⟨status, read⟩⟩ := of_readDocument found
  · -- A new document holds nothing, and whatever came with a 404 is not looked at.
    have nothing : (DesignDocument.fresh run.design).hasDefinition definition = false := by
      simp [DesignDocument.hasDefinition, DesignDocument.view?, DesignDocument.fresh]
    rw [nothing]
    simp only [finds, documentRead, absent]
    split <;> rfl
  · simp only [finds, documentRead, read, status, decide_true, Bool.true_and]
    rfl

/-- A reading that brings no document finds nothing. -/
theorem finds_of_readDocument_error {error : QueryError}
    (failed : run.readDocument answer = .error error) (definition : ViewDefinition) :
    finds definition (run.documentRead, answer) = false := by
  -- Either there was no reply at all, or its status or its body was not that of a document.
  rcases of_readDocument_error failed with ⟨reason, rfl, _⟩ | ⟨reply, rfl, _, _, unread⟩
  · rfl
  · simp only [finds, documentRead]
    split
    · rename_i document read
      -- What can be read came with a status that the document is not taken from.
      have other : reply.status ≠ 200 := by
        intro status
        obtain ⟨reason, foreign⟩ := unread status
        rw [foreign] at read
        cases read
      simp [other]
    · rfl

/-- A reading has the event of a definition that it finds. -/
theorem events_defining {remaining : Nat} :
    (run.resume (.defining remaining) answer).1 =
      (if finds run.request.definition (run.documentRead, answer) then [.indexAlreadyPresent]
        else []) ++ endWord (run.resume (.defining remaining) answer).2 := by
  -- What was read decides: an error ends the run, and a document leads to a write or to the query.
  cases found : run.readDocument answer with
  | error error =>
    rw [finds_of_readDocument_error found, resume_defining_of_error found, endWord,
      lastWord_of_not_givesUp (not_givesUp_of_unread found)]
    cases answer with
    | error reason => rfl
    | ok reply =>
      simp only [readDocument] at found
      simp [resume, onDocument, found, fail]
  | ok document =>
    rw [finds_of_readDocument found]
    -- A run that has its document goes on, so there is no event of its end.
    cases answer with
    | error reason => cases found
    | ok reply =>
      simp only [readDocument] at found
      simp only [resume, onDocument, found, withDocument]
      split <;> rfl

/-- A write has the event of what became of it. -/
theorem events_installing {document : DesignDocument} {remaining : Nat} :
    (run.resume (.installing document remaining) answer).1 =
      (if TellsWritten answer then [.indexInstalled]
        else if TellsConflict answer then [.indexInstallConflict] else []) ++
        endWord (run.resume (.installing document remaining) answer).2 := by
  -- The status of the write decides: it went through, met a conflict, or failed.
  by_cases written : TellsWritten answer
  · rw [if_pos written, resume_installing_of_written written]
    obtain ⟨reply, rfl, status⟩ := written.exists_reply
    simp [resume, onWritten, status, endWord]
  · rw [if_neg written]
    by_cases conflicted : TellsConflict answer
    · -- The event of the conflict stands before those of the next attempt.
      rw [if_pos conflicted, resume_installing_of_conflict conflicted, ← events_attempt]
      obtain ⟨reply, rfl, status⟩ := conflicted.exists_reply
      simp [resume, onWritten, status]
    · rw [if_neg conflicted, resume_installing_of_failed written conflicted, endWord,
        lastWord_of_not_givesUp (not_givesUp_writeError answer)]
      cases answer with
      | error reason => rfl
      | ok reply =>
        rw [tellsWritten_ok_iff] at written
        rw [tellsConflict_ok_iff] at conflicted
        simp [resume, onWritten, written, conflicted, fail]

/-- The second query has the event of its success. -/
theorem events_reconciling :
    (run.resume .reconciling answer).1 =
      (if answer.status? = some 200 then [.viewReconciled] else []) ++
        endWord (run.resume .reconciling answer).2 := by
  -- No run gives up behind its last query, so there is no event of its end.
  rw [resume_reconciling, endWord, lastWord_of_not_givesUp (not_givesUp_reconciled answer)]
  cases answer with
  | error reason => rfl
  | ok reply =>
    simp only [resume, onReconciled, Answer.status?, Option.some.injEq]
    split <;> rfl

/-- One step of a run records the events of its exchange, and that of the end if there is one. -/
theorem events_resume (run : Materializer) (phase : Phase) (answer : Answer) :
    (run.resume phase answer).1 =
      told run.request.definition (phase = .querying) (run.call phase, answer) ++
        endWord (run.resume phase answer).2 := by
  -- The phase tells which call is made, and the call which events an exchange may have.
  cases phase with
  | querying => simpa [told, call] using events_querying
  | defining remaining => exact events_defining
  | installing document remaining =>
    simpa [told, call, isInstall, IsConflict, StoreCall.isWrite] using events_installing
  | reconciling => simpa [told, call, isAnswered, StoreCall.isQuery] using events_reconciling

end Step

section Run

variable {σ : Type}

/-- The events of exchanges that follow each other. -/
def tell (definition : ViewDefinition) (first : Bool) : List Exchange → List Event
  | [] => []
  | exchange :: later => told definition first exchange ++ tell definition false later

/-- A run records the events of its exchanges, and that of its end if there is one. -/
theorem events_runFrom (run : Materializer) (answer : Behaviour σ) (phase : Phase) (store : σ) :
    (run.runFrom answer phase store).events =
      tell run.request.definition (phase = .querying) (run.runFrom answer phase store).exchanges ++
        lastWord (run.runFrom answer phase store).outcome := by
  -- Either the first call is the last one, or what follows it is told by the next phase.
  induction phase, store using Materializer.runFrom.induct run answer with
  | case1 phase store call answered events outcome resumed =>
    have step := events_resume run phase answered.1
    rw [resumed] at step
    rw [runFrom]
    split <;> rename_i decided <;> rw [decided] at resumed <;> cases resumed
    simpa [tell, endWord] using step
  | case2 phase store call answered events next resumed ih =>
    have step := events_resume run phase answered.1
    rw [resumed] at step
    -- No run comes back to its first query.
    have behind : next ≠ .querying := by
      have leads : Leads run phase answered.1 next := leads_of_resume (by rw [resumed])
      cases leads <;> simp
    rw [runFrom]
    split <;> rename_i decided <;> rw [decided] at resumed <;> cases resumed
    rw [endWord, List.append_nil] at step
    simp only [behind, decide_false] at ih
    simp only [Record.after, tell, List.append_assoc]
    exact congrArg₂ (· ++ ·) step ih

end Run

section Exchanges

variable (run : Materializer) (definition : ViewDefinition) (document : DesignDocument)
  (answer : Answer)

@[simp] theorem not_isConflict_viewQuery : ¬IsConflict (run.viewQuery, answer) := by
  simp [IsConflict]

@[simp] theorem not_isConflict_documentRead : ¬IsConflict (run.documentRead, answer) := by
  simp [IsConflict]

@[simp] theorem isConflict_documentWrite :
    IsConflict (run.documentWrite document, answer) ↔ TellsConflict answer := by
  simp [IsConflict]

@[simp] theorem isInstall_viewQuery : isInstall (run.viewQuery, answer) = false := by
  simp [isInstall]

@[simp] theorem isInstall_documentRead : isInstall (run.documentRead, answer) = false := by
  simp [isInstall]

@[simp] theorem isInstall_documentWrite :
    isInstall (run.documentWrite document, answer) = decide (TellsWritten answer) := by
  simp [isInstall]

@[simp] theorem finds_viewQuery : finds definition (run.viewQuery, answer) = false := rfl

@[simp] theorem finds_documentWrite :
    finds definition (run.documentWrite document, answer) = false :=
  rfl

@[simp] theorem isAnswered_documentRead : isAnswered (run.documentRead, answer) = false := by
  simp [isAnswered]

@[simp] theorem isAnswered_documentWrite :
    isAnswered (run.documentWrite document, answer) = false := by
  simp [isAnswered]

@[simp] theorem told_viewQuery_first :
    told definition true (run.viewQuery, answer) =
      if TellsMissing answer then [.viewMissing, .indexDefined] else [] :=
  rfl

@[simp] theorem told_viewQuery_second :
    told definition false (run.viewQuery, answer) =
      if isAnswered (run.viewQuery, answer) then [.viewReconciled] else [] :=
  rfl

@[simp] theorem told_documentRead (first : Bool) :
    told definition first (run.documentRead, answer) =
      if finds definition (run.documentRead, answer) then [.indexAlreadyPresent] else [] :=
  rfl

@[simp] theorem told_documentWrite (first : Bool) :
    told definition first (run.documentWrite document, answer) =
      if TellsWritten answer then [.indexInstalled]
      else if TellsConflict answer then [.indexInstallConflict] else [] := by
  simp [told, documentWrite, isInstall, IsConflict, StoreCall.isWrite]

end Exchanges

section Grammar

variable {run : Materializer} {remaining : Nat} {exchanges : List Exchange} {outcome : Outcome}

/-- An exchange that neither wrote the definition nor found it closes no attempts. -/
theorem settlement_cons {definition : ViewDefinition} {exchange : Exchange}
    (unwritten : isInstall exchange = false) (lacking : finds definition exchange = false) :
    settlement definition (exchange :: exchanges) outcome =
      settlement definition exchanges outcome := by
  simp only [settlement, List.any_cons, unwritten, lacking, Bool.false_or]

/-- The attempts record their conflicts, then what closes them, then the last query's success. -/
theorem Attempts.tell_eq (attempts : Attempts run remaining exchanges outcome) :
    tell run.request.definition false exchanges ++ lastWord outcome =
      List.replicate (exchanges.countP (IsConflict ·)) .indexInstallConflict ++
        settlement run.request.definition exchanges outcome ++
        if exchanges.any isAnswered then [.viewReconciled] else [] := by
  -- Each arm has one exchange, or its end, that tells what closes the attempts.
  induction attempts with
  | exhausted => rfl
  | unread failed =>
    have left := isExhausted_eq_false (not_givesUp_of_unread failed)
    simp [tell, settlement, lastWord, left, finds_of_readDocument_error failed]
  | @present _ _ last _ found holds =>
    have left := isExhausted_eq_false (@not_givesUp_reconciled run last)
    simp [tell, settlement, lastWord, left, finds_of_readDocument found, holds]
  | @unwritten _ _ write _ found lacks refused failed =>
    have left := isExhausted_eq_false (@not_givesUp_writeError run write)
    simp [tell, settlement, lastWord, left, finds_of_readDocument found, lacks, refused, failed]
  | @installed _ _ write last _ found lacks written =>
    have left := isExhausted_eq_false (@not_givesUp_reconciled run last)
    have single : ¬TellsConflict write := mt not_tellsWritten_of_tellsConflict (not_not.2 written)
    simp [tell, settlement, lastWord, left, finds_of_readDocument found, lacks, written, single]
  | conflict found lacks conflicted rest ih =>
    -- A conflict stands before those of the later attempts, and changes nothing else.
    have refused := not_tellsWritten_of_tellsConflict conflicted
    rw [settlement_cons (by simp) (by rw [finds_of_readDocument found, lacks]),
      settlement_cons (by simp [refused]) (by simp)]
    simp only [List.any_cons, isAnswered_documentRead, isAnswered_documentWrite, Bool.false_or]
    simp [tell, finds_of_readDocument found, lacks, refused, conflicted, List.replicate_succ, ih]

/-- At most one event closes the attempts. -/
theorem Attempts.length_settlement (attempts : Attempts run remaining exchanges outcome) :
    (settlement run.request.definition exchanges outcome).length ≤ 1 := by
  -- Each arm but the conflict ends the attempts in one way, and a conflict in none.
  induction attempts with
  | exhausted => exact Nat.le_refl 1
  | unread failed =>
    have left := isExhausted_eq_false (not_givesUp_of_unread failed)
    simp [settlement, left, finds_of_readDocument_error failed]
  | @present _ _ last _ found holds =>
    have left := isExhausted_eq_false (@not_givesUp_reconciled run last)
    simp [settlement, left, finds_of_readDocument found, holds]
  | @unwritten _ _ write _ found lacks refused failed =>
    have left := isExhausted_eq_false (@not_givesUp_writeError run write)
    simp [settlement, left, finds_of_readDocument found, lacks, refused]
  | @installed _ _ write last _ found lacks written =>
    have left := isExhausted_eq_false (@not_givesUp_reconciled run last)
    simp [settlement, left, finds_of_readDocument found, lacks, written]
  | conflict found lacks conflicted rest ih =>
    have refused := not_tellsWritten_of_tellsConflict conflicted
    rw [settlement_cons (by simp) (by rw [finds_of_readDocument found, lacks]),
      settlement_cons (by simp [refused]) (by simp)]
    exact ih

/-- The first query closes no attempts. -/
theorem settlement_viewQuery {definition : ViewDefinition} (answer : Answer) :
    settlement definition ((run.viewQuery, answer) :: exchanges) outcome =
      settlement definition exchanges outcome :=
  settlement_cons (isInstall_viewQuery run answer) (finds_viewQuery run definition answer)

/-- A run that ends with its first query records nothing else. -/
theorem log_answered {first : Answer} (decided : ¬TellsMissing first) :
    log run.request.definition [(run.viewQuery, first)] (run.answered first) = [.viewQuery] := by
  -- Nothing was written, read or asked again.
  have left := isExhausted_eq_false (@not_givesUp_answered run first)
  rw [log, settlement_viewQuery]
  simp [settlement, left, decided]

/-- A session records its log. -/
theorem Session.log_eq (session : Session run exchanges outcome) :
    .viewQuery :: (tell run.request.definition true exchanges ++ lastWord outcome) =
      log run.request.definition exchanges outcome := by
  -- A session ends with its first query, or that query begins the attempts.
  cases session with
  | @answered first decided =>
    rw [log_answered decided, lastWord_of_not_givesUp (not_givesUp_answered first)]
    simp [tell, decided]
  | missing missing rest =>
    -- The events of the first query stand before those of the attempts.
    rw [log, settlement_viewQuery, tell, List.append_assoc, rest.tell_eq, List.tail_cons]
    simp [missing]

/-- At most one event closes the attempts of a session. -/
theorem Session.length_settlement (session : Session run exchanges outcome) :
    (settlement run.request.definition exchanges outcome).length ≤ 1 := by
  -- Without attempts there is nothing to close.
  cases session with
  | @answered first decided =>
    have left := isExhausted_eq_false (@not_givesUp_answered run first)
    rw [settlement_viewQuery]
    simp [settlement, left]
  | missing missing rest =>
    rw [settlement_viewQuery]
    exact rest.length_settlement

end Grammar

/-- A run records its log, whatever the store answers. -/
theorem events_complete {σ : Type} (run : Materializer) (answer : Behaviour σ) (store : σ) :
    (run.complete answer store).events = log run.request.definition
      (run.complete answer store).exchanges (run.complete answer store).outcome := by
  -- The first event is recorded before anything is exchanged.
  rw [← (complete_session run answer store).log_eq]
  exact congrArg (.viewQuery :: ·) (events_runFrom run answer .querying store)

end Materializer

/-- How what a query records hangs together with what it exchanges and what it ends in. -/
structure Traced {σ : Type} (definition : ViewDefinition) (record : Materializer.Record σ) :
    Prop where
  /-- If the query brings rows, its log is followed by the event that it is complete. -/
  complete : ∀ response, record.outcome = .ok response →
    record.events = Materializer.log definition record.exchanges record.outcome ++ [.queryComplete]
  /-- If it ends in an error, its log is followed by the event that it failed. -/
  failed : ∀ error, record.outcome = .error error →
    record.events = Materializer.log definition record.exchanges record.outcome ++ [.queryFailed]
  /-- At most one event closes the attempts to install the view. -/
  settled : (Materializer.settlement definition record.exchanges record.outcome).length ≤ 1
  /-- The view is queried first, and unless it is missing nothing else stands in the log. -/
  opens : ∃ path text first later, record.exchanges = (.queryView path text, first) :: later ∧
    (Materializer.TellsMissing first ∨
      Materializer.log definition record.exchanges record.outcome = [.viewQuery])

/--
What a query records is its log, and one event that tells whether it brings rows.

Each event of the log stands there exactly if the exchanges or the outcome tell so: the view is
missing, a write met another one, the definition was written or found, the attempts are used up, or
the second query is answered. At most one event closes the attempts, and a run that ends with its
first query has no event of an installation.
-/
theorem events_fetch {σ : Type} {query : Query} (built : query.Built)
    (proper : checkDesignDocument query.plan.container = .ok ()) (answer : Behaviour σ) (store : σ)
    {record : Materializer.Record σ} (fetched : query.fetch answer store = record)
    {definition : ViewDefinition} (wanted : .ofShape query.viewName query.shape = definition) :
    Traced definition record := by
  -- A query that was built with a proper id starts a run for its own definition.
  obtain ⟨request, sent⟩ := built.request?
  obtain ⟨run, started, same⟩ : ∃ run, query.materializer? = .ok run ∧
      run.request.definition = definition :=
    ⟨_, Query.materializer?_of_request proper sent,
      by rw [Query.definition_of_request? sent, wanted]⟩
  have session := Materializer.complete_session run answer store
  have events := run.events_complete answer store
  rw [Query.fetch_of_materializer? started] at fetched
  subst same fetched
  refine ⟨fun response rows => ?_, fun error fault => ?_, session.length_settlement, ?_⟩
  · dsimp only at rows ⊢
    rw [events, rows]
    rfl
  · dsimp only at fault ⊢
    rw [events, fault]
    rfl
  -- The grammar tells which of the two ways the run has taken.
  · dsimp only
    generalize (run.complete answer store).exchanges = exchanges at session ⊢
    generalize (run.complete answer store).outcome = outcome at session ⊢
    cases session with
    | @answered first decided =>
      exact ⟨_, _, first, [], rfl, .inr (Materializer.log_answered decided)⟩
    | @missing first later outcome missing rest => exact ⟨_, _, first, later, rfl, .inl missing⟩

/-- A query of all pages. -/
def allPages : Query where
  plan := { documentType := "Page", container := "_design/example" }
  retryBudget := 5

/-- A store that refuses the first write, and answers the second query with a body. -/
def answering (body : Json) : ScriptedStore where
  views := [.ok ⟨404, (ErrorBody.notFound "missing").toJson⟩, .ok ⟨200, body⟩]
  gets := [.ok ⟨404, .null⟩, .ok ⟨404, .null⟩]
  puts := [.ok ⟨409, ErrorBody.conflict.toJson⟩, .ok ⟨202, .null⟩]

/-- After a conflict the view answers, and the query is complete only if the rows can be read. -/
theorem events_fetch_answering :
    allPages.Built ∧ checkDesignDocument allPages.plan.container = .ok () ∧
    ∃ definition, .ofShape allPages.viewName allPages.shape = definition ∧
      (∀ body, Traced definition (allPages.fetch ScriptedStore.answer (answering body))) ∧
      (allPages.fetch ScriptedStore.answer
          (answering (.ofMembers [("rows", .array [])]))).outcome = .ok ⟨none, none, []⟩ ∧
      (allPages.fetch ScriptedStore.answer
          (answering (.ofMembers [("rows", .array [])]))).events =
        [.viewQuery, .viewMissing, .indexDefined, .indexInstallConflict, .indexInstalled,
          .viewReconciled, .queryComplete] ∧
      (allPages.fetch ScriptedStore.answer (answering .null)).events =
        [.viewQuery, .viewMissing, .indexDefined, .indexInstallConflict, .indexInstalled,
          .viewReconciled, .queryFailed] := by
  -- The two stores differ only in the body of the view, so one trace covers both.
  have built : allPages.Built := .begun (rfl : Query.ofType? "Page" {} = .ok allPages)
  have proper : checkDesignDocument allPages.plan.container = .ok () := by decide
  have traced (body : Json) := events_fetch built proper ScriptedStore.answer (answering body) rfl rfl
  have rows : (allPages.fetch ScriptedStore.answer
      (answering (.ofMembers [("rows", .array [])]))).outcome = .ok ⟨none, none, []⟩ := by
    decide +kernel
  refine ⟨built, proper, _, rfl, traced, rows, ?_, ?_⟩
  · rw [(traced _).complete _ rows]
    decide +kernel
  · decide +kernel

end DocView
