import DocView.Proofs.Materializer.Session
import DocView.Proofs.Store.Operation
import DocView.Query

/-!
Runs that share a store call by call, among other writers, in any order of their calls. A run that
is alone does what it does when it is completed in one go.
-/

namespace DocView

/-- A run among others: where it stands, and what it exchanged so far. -/
structure Runner where
  /-- The run. -/
  run : Materializer
  /-- Where the run stands. -/
  progress : Progress := .waiting .querying
  /-- The calls of the run so far, each with its answer. -/
  exchanges : List Exchange := []

namespace Runner

variable {σ : Type}

/-- A runner takes up the answer to the call of a phase. -/
def receive (runner : Runner) (phase : Phase) (answer : Answer) : Runner :=
  { runner with
    progress := (runner.run.resume phase answer).2
    exchanges := runner.exchanges ++ [(runner.run.call phase, answer)] }

/-- A runner makes its next call, and the store answers it. -/
def turn (answer : Behaviour σ) (runner : Runner) (store : σ) : Runner × σ :=
  match runner.progress with
  | .finished _ => (runner, store)
  | .waiting phase =>
    let answered := answer store (runner.run.call phase)
    (runner.receive phase answered.1, answered.2)

/-- A runner takes so many turns, with nobody else calling the store. -/
def turns (answer : Behaviour σ) : Nat → Runner → σ → Runner × σ
  | 0, runner, store => (runner, store)
  | count + 1, runner, store =>
    turns answer count (runner.turn answer store).1 (runner.turn answer store).2

/-- A runner that is done makes no call. -/
theorem turn_finished {answer : Behaviour σ} {runner : Runner} {store : σ} {outcome : Outcome}
    (done : runner.progress = .finished outcome) : runner.turn answer store = (runner, store) := by
  simp [turn, done]

/-- A runner that waits makes the call of its phase. -/
theorem turn_waiting {answer : Behaviour σ} {runner : Runner} {store : σ} {phase : Phase}
    (waits : runner.progress = .waiting phase) :
    runner.turn answer store =
      (runner.receive phase (answer store (runner.run.call phase)).1,
        (answer store (runner.run.call phase)).2) := by
  simp [turn, waits]

/-- The call that a runner makes next, if it is not done. -/
def call? (runner : Runner) : Option StoreCall :=
  match runner.progress with
  | .finished _ => none
  | .waiting phase => some (runner.run.call phase)

end Runner

/-- A run that is alone comes to the end that it comes to when it is completed in one go. -/
theorem Materializer.turns_runFrom {σ : Type} (run : Materializer) (answer : Behaviour σ)
    (phase : Phase) (store : σ) (earlier : List Exchange) :
    ∃ count, Runner.turns answer count ⟨run, .waiting phase, earlier⟩ store =
      (⟨run, .finished (run.runFrom answer phase store).outcome,
          earlier ++ (run.runFrom answer phase store).exchanges⟩,
        (run.runFrom answer phase store).store) := by
  -- Each answer leaves fewer calls to make, which is what bounds the turns.
  induction phase, store using Materializer.runFrom.induct run answer generalizing earlier with
  | case1 phase store call answered events outcome resumed =>
    refine ⟨1, ?_⟩
    rw [runFrom]
    split <;> rename_i decided <;> rw [decided] at resumed <;> cases resumed
    simp [Runner.turns, Runner.turn, Runner.receive, decided]
  | case2 phase store call answered events next resumed ih =>
    obtain ⟨count, later⟩ := ih (earlier ++ [(call, answered.1)])
    refine ⟨count + 1, ?_⟩
    rw [runFrom]
    split <;> rename_i decided <;> rw [decided] at resumed <;> cases resumed
    have first : Runner.turn answer ⟨run, .waiting phase, earlier⟩ store =
        (⟨run, .waiting next, earlier ++ [(call, answered.1)]⟩, answered.2) := by
      simp [Runner.turn, Runner.receive, decided, call, answered]
    rw [Runner.turns, first]
    simpa [Record.after] using later

/-- A store held in memory, and the runs that share it. -/
structure Race where
  /-- The store. -/
  store : MemoryStore
  /-- The runs, each where it stands. -/
  runners : List Runner

namespace Race

/-- What happens next in a race. -/
inductive Move where
  /-- The runner at a position makes its next call. -/
  | turn (position : Nat)
  /-- Another program does something to the store. -/
  | operate (operation : MemoryStore.Operation)

/-- Runs that are about to begin. -/
def ofRuns (runs : List Materializer) (store : MemoryStore) : Race :=
  ⟨store, runs.map fun run => { run }⟩

/-- The race after the runner at a position made its next call. -/
def turn (race : Race) (position : Nat) : Race :=
  match race.runners[position]? with
  | none => race
  | some runner =>
    let after := runner.turn MemoryStore.answer race.store
    ⟨after.2, race.runners.set position after.1⟩

/-- The race after a move. -/
def after (race : Race) : Move → Race
  | .turn position => race.turn position
  | .operate operation => { race with store := race.store.operate operation }

/-- The race after its runners took turns in the order of a schedule. -/
def run (race : Race) (schedule : List Nat) : Race := schedule.foldl turn race

/-- The call that a move makes, if it makes one. -/
def call? (race : Race) : Move → Option StoreCall
  | .turn position => race.runners[position]?.bind Runner.call?
  | .operate (.call call) => some call
  | .operate _ => none

/-- What a move stores that does not come from one of the runs. -/
inductive OthersStore (race : Race) : Move → Json → Prop where
  /-- Another program stores a document whatever its revision. -/
  | inserted {id : String} {document : Json} :
    OthersStore race (.operate (.insert id document)) document
  /-- Another program writes a document under its latest revision. -/
  | sent {id : String} {body : Json} (accepted : (race.store.put id body).1.status = 201) :
    OthersStore race (.operate (.call (.putDocument id body))) body
  /-- The writer that waits for a document comes before each write of it. -/
  | waiting {move : Move} {id : String} {body document : Json}
    (writes : race.call? move = some (.putDocument id body))
    (waits : race.store.writerDocument? id = some document) : OthersStore race move document

/-- Whether a race comes about from runs that begin on an empty store, if others store objects. -/
inductive Reachable (runs : List Materializer) : Race → Prop where
  /-- The runs are about to begin. -/
  | start : Reachable runs (ofRuns runs {})
  /-- Any runner or any other program may be the next. -/
  | move {race : Race} (reached : Reachable runs race) (move : Move)
    (objects : ∀ document, race.OthersStore move document → document.IsObject) :
    Reachable runs (race.after move)

variable {race : Race} {position : Nat} {runner : Runner}

/-- At a position without a runner nothing happens. -/
theorem turn_of_none (nobody : race.runners[position]? = none) : race.turn position = race := by
  simp [turn, nobody]

/-- A runner that is done changes nothing. -/
theorem turn_of_finished {outcome : Outcome} (here : race.runners[position]? = some runner)
    (done : runner.progress = .finished outcome) : race.turn position = race := by
  -- The runner is put back where it stands.
  obtain ⟨within, same⟩ := List.getElem?_eq_some_iff.1 here
  have kept : race.runners.set position runner = race.runners := by
    rw [← same]
    exact List.set_getElem_self within
  simp [turn, here, Runner.turn_finished done, kept]

/-- A runner that waits makes the call of its phase, and the others stay where they are. -/
theorem turn_of_waiting {phase : Phase} (here : race.runners[position]? = some runner)
    (waits : runner.progress = .waiting phase) :
    race.turn position =
      { store := race.store.operate (.call (runner.run.call phase))
        runners := race.runners.set position
          (runner.receive phase (race.store.answer (runner.run.call phase)).1) } := by
  simp only [turn, here, Runner.turn_waiting waits]
  rfl

/-- A turn calls the store, or leaves it as it is. -/
theorem store_turn (race : Race) (position : Nat) :
    (race.turn position).store = race.store ∨
      ∃ call, (race.turn position).store = race.store.operate (.call call) := by
  -- Only a runner that waits calls the store.
  cases here : race.runners[position]? with
  | none => exact .inl (by rw [turn_of_none here])
  | some runner =>
    cases waits : runner.progress with
    | finished outcome => exact .inl (by rw [turn_of_finished here waits])
    | waiting phase => exact .inr ⟨runner.run.call phase, by rw [turn_of_waiting here waits]⟩

/-- A calm store stays calm while runs take turns. -/
theorem calm_turn (calm : race.store.Calm) (position : Nat) : (race.turn position).store.Calm := by
  rcases race.store_turn position with same | ⟨call, called⟩
  · rw [same]
    exact calm
  · rw [called]
    exact calm.call call

/-- On a calm store, a turn stores nothing that does not come from one of the runs. -/
theorem not_othersStore_turn (calm : race.store.Calm) (position : Nat) (document : Json) :
    ¬race.OthersStore (.turn position) document := by
  intro stores
  cases stores with
  | @waiting _ id body _ writes waits =>
    rw [calm.writerDocument? id] at waits
    cases waits

/-- A calm store stays calm through a schedule. -/
theorem calm_run (schedule : List Nat) {race : Race} (calm : race.store.Calm) :
    (race.run schedule).store.Calm := by
  induction schedule generalizing race with
  | nil => exact calm
  | cons position later ih => exact ih (calm_turn calm position)

/-- On a calm store, runs may take turns in any order. -/
theorem Reachable.run {runs : List Materializer} (schedule : List Nat) {race : Race}
    (reached : Reachable runs race) (calm : race.store.Calm) :
    Reachable runs (race.run schedule) := by
  -- By induction on the schedule: in a calm store no turn lets anybody else write.
  induction schedule generalizing race with
  | nil => exact reached
  | cons position later ih =>
    have turned : Reachable runs (race.turn position) :=
      reached.move (.turn position) fun document stores =>
        absurd stores (not_othersStore_turn calm position document)
    exact ih turned (calm_turn calm position)

end Race

/-- A query of all users in the order of one field. -/
def usersBy (field : String) : Query where
  plan := {
    documentType := "user"
    container := "_design/app"
    clauses := [.order field .ascending] }
  retryBudget := 3

/-- The run of a query of all users. -/
def usersRun (field : String) : Materializer where
  design := "_design/app"
  budget := 3
  request := {
    index := (usersBy field).viewName
    path := viewPath "_design/app" (usersBy field).viewName
    query := Scan.queryString { startKey := some [lowest], endKey := some [highest] }
    shape := ⟨"user", [field], false⟩ }

/-- The query of all users starts its run. -/
theorem materializer?_usersBy (field : String) :
    (usersBy field).materializer? = .ok (usersRun field) := by
  have checked : checkDesignDocument (usersBy field).plan.container = .ok () :=
    (by decide : checkDesignDocument "_design/app" = .ok ())
  rw [Query.materializer?, checked]
  rfl

end DocView
