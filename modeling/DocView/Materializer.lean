import DocView.DesignDocument
import DocView.Event
import DocView.QueryError
import DocView.ViewResponse

/-!
One query against a store, which installs its view first if the store lacks it. A run is a state
that asks for one store call at a time, so several runs can share a store call by call.

The view is queried. If it is missing, the design document is read, the definition is put in and the
document is written back under the revision it was read at. A write that meets another writer is
tried again from the reading on, as often as the budget allows; then the view is queried once more.
-/

namespace DocView

/-- A query of one view, and what is needed to install that view. -/
structure ViewRequest where
  /-- The name of the view. -/
  index : String
  /-- The path of the view. -/
  path : String
  /-- The query string. -/
  query : String
  /-- What the view indexes. -/
  shape : ViewShape
deriving DecidableEq

namespace ViewRequest

/-- The address that errors show. -/
def url (request : ViewRequest) : String := s!"{request.path}?{request.query}"

/-- The definition that is installed if the view is missing. -/
def definition (request : ViewRequest) : ViewDefinition :=
  .ofShape request.index request.shape

/-- The rows of a body, or the error that it holds none. -/
def readRows (request : ViewRequest) (body : Json) : Except QueryError ViewResponse :=
  match ViewResponse.ofJson? body with
  | .ok response => .ok response
  | .error error => .error (.invalidResponse request.url error.message)

end ViewRequest

/-- The outcome of a query. -/
abbrev Outcome := Except QueryError ViewResponse

/-- What a run is about to do. -/
inductive Phase where
  /-- The view is about to be queried. -/
  | querying
  /-- The design document is about to be read, with so many attempts left. -/
  | defining (remaining : Nat)
  /-- The design document is about to be written, with so many attempts left. -/
  | installing (document : DesignDocument) (remaining : Nat)
  /-- The view is about to be queried after it was installed. -/
  | reconciling
deriving DecidableEq

/-- A bound on the calls that a run still makes, if its budget is as given. -/
def Phase.callsLeft (budget : Nat) : Phase → Nat
  | querying => 2 * budget + 4
  | defining remaining => 2 * remaining + 3
  | installing _ remaining => 2 * remaining + 2
  | reconciling => 1

/-- Where a run stands. -/
inductive Progress where
  /-- The run waits for the answer to a call. -/
  | waiting (phase : Phase)
  /-- Nothing is left to do. -/
  | finished (outcome : Outcome)
deriving DecidableEq

/-- Whether a run makes fewer calls than a number. -/
def Progress.Within (budget bound : Nat) : Progress → Prop
  | waiting phase => phase.callsLeft budget < bound
  | finished _ => True

/-- The events of one step of a run, and where the run stands after it. -/
abbrev Step := List Event × Progress

/-- A run of one request for a design document. -/
structure Materializer where
  /-- The id of the design document that receives the view. -/
  design : String
  /-- How often the view is tried to be installed. -/
  budget : Nat
  /-- The query to be answered. -/
  request : ViewRequest
deriving DecidableEq

namespace Materializer

/-- The call that a run makes in a phase. -/
def call (run : Materializer) : Phase → StoreCall
  | .querying => .queryView run.request.path run.request.query
  | .defining _ => .getDocument run.design
  | .installing document _ => .putDocument document.id document.toJson
  | .reconciling => .queryView run.request.path run.request.query

/-- Ends a run with an error. -/
def fail (error : QueryError) : Step := ([], .finished (.error error))

/-- Starts the next attempt to install the view, if one is left. -/
def attempt (run : Materializer) (remaining : Nat) : Step :=
  if remaining = 0 then
    ([.indexInstallExhausted],
      .finished (.error (.creationExhausted run.request.index run.budget)))
  else ([], .waiting (.defining remaining))

/-- Goes on after the first query of the view. -/
def onRows (run : Materializer) (reply : Reply) : Step :=
  if reply.status = 200 then ([], .finished (run.request.readRows reply.body))
  else if reply.status = 404 ∧ ErrorBody.isNotFound reply.body then
    ([.viewMissing, .indexDefined] ++ (run.attempt run.budget).1, (run.attempt run.budget).2)
  else fail (.queryFailed run.request.url reply.status reply.body)

/-- The design document that a reply stands for, or an empty one if it does not exist yet. -/
def documentOf (run : Materializer) (reply : Reply) : Except QueryError DesignDocument :=
  if reply.status = 200 then
    match DesignDocument.ofJson? reply.body with
    | .ok document => .ok document
    | .error _ => .error (.installFailed run.request.index reply.status reply.body)
  -- A document that does not exist yet is written without a revision.
  else if reply.status = 404 then .ok (.fresh run.design)
  else .error (.installFailed run.request.index reply.status reply.body)

/-- Goes on with the design document as it stands. -/
def withDocument (run : Materializer) (document : DesignDocument) (remaining : Nat) : Step :=
  -- Another run may have put in the same definition, and then there is nothing to write.
  if document.hasDefinition run.request.definition then
    ([.indexAlreadyPresent], .waiting .reconciling)
  else ([], .waiting (.installing (document.setView run.request.definition) remaining))

/-- Goes on after the design document was read. -/
def onDocument (run : Materializer) (remaining : Nat) (reply : Reply) : Step :=
  match run.documentOf reply with
  | .ok document => run.withDocument document remaining
  | .error error => fail error

/-- Goes on after the design document was written. -/
def onWritten (run : Materializer) (remaining : Nat) (reply : Reply) : Step :=
  if reply.status = 201 ∨ reply.status = 202 then ([.indexInstalled], .waiting .reconciling)
  -- The document was written by another since it was read, so it is read again.
  else if reply.status = 409 then
    (.indexInstallConflict :: (run.attempt (remaining - 1)).1, (run.attempt (remaining - 1)).2)
  else fail (.installFailed run.request.index reply.status reply.body)

/-- Goes on after the second query of the view. -/
def onReconciled (run : Materializer) (reply : Reply) : Step :=
  if reply.status = 200 then
    ([.viewReconciled], .finished (run.request.readRows reply.body))
  else fail (.postInstallFailed run.request.url reply.status reply.body)

/-- Takes up the answer to the call of a phase. -/
def resume (run : Materializer) (phase : Phase) : Answer → Step
  | .error error => fail (.store error)
  | .ok reply =>
    match phase with
    | .querying => run.onRows reply
    | .defining remaining => run.onDocument remaining reply
    | .installing _ remaining => run.onWritten remaining reply
    | .reconciling => run.onReconciled reply

/-- A next attempt leaves at most two calls for each attempt, and the last query. -/
theorem within_attempt (run : Materializer) (remaining : Nat) :
    (run.attempt remaining).2.Within run.budget (2 * remaining + 4) := by
  unfold attempt
  split
  · trivial
  · simp only [Progress.Within, Phase.callsLeft]; omega

/-- Going on with a document leaves at most its write, the later attempts and the last query. -/
theorem within_withDocument (run : Materializer) (document : DesignDocument) (remaining : Nat) :
    (run.withDocument document remaining).2.Within run.budget (2 * remaining + 3) := by
  unfold withDocument
  split <;> simp only [Progress.Within, Phase.callsLeft] <;> omega

/-- Every answer leaves fewer calls to make. -/
theorem within_resume (run : Materializer) (phase : Phase) (answer : Answer) :
    (run.resume phase answer).2.Within run.budget (phase.callsLeft run.budget) := by
  -- An answer ends the run, or leads to a phase from which fewer calls are left.
  cases answer with
  | error error => trivial
  | ok reply =>
    cases phase with
    | querying =>
      simp only [resume, onRows]
      split
      · trivial
      · split
        · exact within_attempt run run.budget
        · trivial
    | defining remaining =>
      simp only [resume, onDocument]
      split
      · exact within_withDocument run _ remaining
      · trivial
    | installing document remaining =>
      simp only [resume, onWritten]
      split
      · simp only [Progress.Within, Phase.callsLeft]; omega
      · split
        · -- A conflict uses up one attempt, and with none left the run is over.
          unfold attempt
          split
          · trivial
          · simp only [Progress.Within, Phase.callsLeft]; omega
        · trivial
    | reconciling =>
      simp only [resume, onReconciled]
      split <;> trivial

/-- What a run does from some point on. -/
structure Record (σ : Type) where
  /-- The calls in their order, each with its answer. -/
  exchanges : List (StoreCall × Answer)
  /-- The events in their order. -/
  events : List Event
  /-- What the run ends in. -/
  outcome : Outcome
  /-- The state in which the run leaves the store. -/
  store : σ

/-- The same record with an exchange and its events before the others. -/
def Record.after {σ : Type} (record : Record σ) (exchange : StoreCall × Answer)
    (events : List Event) : Record σ :=
  { record with
    exchanges := exchange :: record.exchanges
    events := events ++ record.events }

/-- Runs from a phase to the end, with nobody else calling the store. -/
def runFrom {σ : Type} (run : Materializer) (answer : Behaviour σ) (phase : Phase) (store : σ) :
    Record σ :=
  let call := run.call phase
  let answered := answer store call
  match _resumed : run.resume phase answered.1 with
  | (events, .finished outcome) => ⟨[(call, answered.1)], events, outcome, answered.2⟩
  | (events, .waiting next) =>
    (runFrom run answer next answered.2).after (call, answered.1) events
termination_by phase.callsLeft run.budget
decreasing_by
  have fewer := within_resume run phase answered.1
  rw [_resumed] at fewer
  exact fewer

/-- Runs from the beginning to the end, with nobody else calling the store. -/
def complete {σ : Type} (run : Materializer) (answer : Behaviour σ) (store : σ) : Record σ :=
  let record := run.runFrom answer .querying store
  { record with events := .viewQuery :: record.events }

end Materializer

end DocView
