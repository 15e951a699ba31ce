import DocView.Proofs.Race
import DocView.Proofs.Store.Install

/-!
No run loses what others committed, in whichever order runs and other writers call the store: what a
run stores differs from what was there in its own view and in the revision alone.
-/

namespace DocView

/-- Whether what a runner is about to write is what it read, with its definition put in. -/
def Runner.Grounded (store : MemoryStore) (runner : Runner) : Prop :=
  ∀ document remaining, runner.progress = .waiting (.installing document remaining) →
    ∃ read, store.Held runner.run.design read ∧
      document = read.setView runner.run.request.definition

/-- A runner stays grounded while others store what they like. -/
theorem Runner.Grounded.evolves {allowed : Json → Prop} {store later : MemoryStore}
    {runner : Runner} (grounded : runner.Grounded store)
    (evolves : MemoryStore.Evolves allowed store later) : runner.Grounded later := by
  intro document remaining writing
  obtain ⟨read, held, same⟩ := grounded document remaining writing
  exact ⟨read, held.evolves evolves, same⟩

namespace Race

/-- What every race keeps. -/
structure Sound (race : Race) : Prop where
  /-- Stored objects carry their own ids and given revisions. -/
  stamped : race.store.Stamped
  /-- Only objects are stored. -/
  objects : race.store.HoldsObjects
  /-- Every runner is about to write what it read. -/
  grounded : ∀ runner ∈ race.runners, runner.Grounded race.store

/-- A race begins with nothing stored and nothing read. -/
theorem sound_ofRuns (runs : List Materializer) : (ofRuns runs {}).Sound := by
  -- In the beginning nothing is stored, and no run waits for a write.
  refine ⟨?_, ?_, ?_⟩
  · intro id document stored
    cases stored
  · intro id document stored
    cases stored
  · intro runner member document remaining writing
    obtain ⟨run, _, rfl⟩ := List.mem_map.1 member
    cases writing

variable {race : Race}

/-- The calls of the runs store objects, if others do. -/
theorem evolves_turn {position : Nat} {runner : Runner} {phase : Phase}
    (here : race.runners[position]? = some runner) (waits : runner.progress = .waiting phase)
    (objects : ∀ document, race.OthersStore (.turn position) document → document.IsObject) :
    MemoryStore.Evolves Json.IsObject race.store
      (race.store.operate (.call (runner.run.call phase))) := by
  -- What a turn stores comes from a writer that waits, or from the run itself.
  refine MemoryStore.evolves_operate fun document stores => ?_
  have called : race.call? (.turn position) = some (runner.run.call phase) := by
    simp [call?, here, Runner.call?, waits]
  cases made : runner.run.call phase with
  | queryView path query =>
    rw [made] at stores
    cases stores
  | getDocument id =>
    rw [made] at stores
    cases stores
  | putDocument id body =>
    rw [made] at stores called
    cases stores with
    | waiting present => exact objects document (.waiting called present)
    | sent accepted =>
      -- The run itself writes a design document, which is an object.
      cases phase with
      | installing written remaining =>
        cases made
        unfold DesignDocument.toJson
        split <;> exact ⟨_, rfl⟩
      | querying | defining _ | reconciling => cases made

/-- Every move keeps a race sound, if others store objects. -/
theorem Sound.after (sound : race.Sound) (move : Move)
    (objects : ∀ document, race.OthersStore move document → document.IsObject) :
    (race.after move).Sound := by
  -- A move changes the store for all runners, and one runner at most.
  cases move with
  | operate operation =>
    have evolves : MemoryStore.Evolves Json.IsObject race.store (race.store.operate operation) := by
      refine MemoryStore.evolves_operate fun document stores => objects document ?_
      cases stores with
      | inserted => exact .inserted
      | waiting present => exact .waiting rfl present
      | sent accepted => exact .sent accepted
    refine ⟨sound.stamped.evolves evolves, sound.objects.evolves evolves, ?_⟩
    intro runner member
    exact (sound.grounded runner member).evolves evolves
  | turn position =>
    cases here : race.runners[position]? with
    | none =>
      have idle : race.after (.turn position) = race := turn_of_none here
      rw [idle]
      exact sound
    | some runner =>
      cases waits : runner.progress with
      | finished outcome =>
        have idle : race.after (.turn position) = race := turn_of_finished here waits
        rw [idle]
        exact sound
      | waiting phase =>
        have evolves := evolves_turn here waits objects
        have moved : race.after (.turn position) = _ := turn_of_waiting here waits
        rw [moved]
        refine ⟨sound.stamped.evolves evolves, sound.objects.evolves evolves, ?_⟩
        intro other member
        rcases List.mem_or_eq_of_mem_set member with stayed | rfl
        · exact (sound.grounded other stayed).evolves evolves
        · -- Only a reading leads to a write, and what it brings is what the store holds.
          intro document remaining writing
          have leads := Materializer.leads_of_resume writing
          generalize same : Phase.installing document remaining = next at leads
          cases leads with
          | lacking found lacks =>
            cases same
            have held := MemoryStore.held_of_readDocument sound.stamped
              (sound.objects runner.run.design) found
            exact ⟨_, held.evolves evolves, rfl⟩
          | missing | present | written | conflict => cases same

/-- Every race that comes about is sound. -/
theorem Reachable.sound {runs : List Materializer} (reached : Reachable runs race) :
    race.Sound := by
  induction reached with
  | start => exact sound_ofRuns runs
  | move reached move objects ih => exact ih.after move objects

/--
A run that installs its definition changes that view and the revision, and nothing else.

It adds the views where there were none, and the whole document where there was none. No other call
of a run changes any document for which no other writer waits.
-/
theorem turn_keeps_committed {runs : List Materializer} (reached : Reachable runs race)
    {position : Nat} {runner : Runner} {phase : Phase}
    (here : race.runners[position]? = some runner) (waits : runner.progress = .waiting phase)
    (objects : ∀ document, race.OthersStore (.turn position) document → document.IsObject) :
    ((race.store.answer (runner.run.call phase)).1.status? = some 201 →
      ∃ rev document, ¬race.store.Gave rev ∧
        Installs runner.run.design runner.run.request.definition rev
          (race.store.document? runner.run.design) document ∧
        (race.turn position).store.document? runner.run.design = some document ∧
        ∀ id, id ≠ runner.run.design →
          (race.turn position).store.document? id = race.store.document? id) ∧
    ((race.store.answer (runner.run.call phase)).1.status? ≠ some 201 →
      ∀ id, race.store.writerDocument? id = none →
        (race.turn position).store.document? id = race.store.document? id) := by
  -- The turn is one call, and only the call of an install can be answered by a creation.
  obtain ⟨stamped, holds, grounded⟩ := reached.sound
  have moved : (race.turn position).store = race.store.operate (.call (runner.run.call phase)) := by
    rw [turn_of_waiting here waits]
  rw [moved]
  by_cases reads : (runner.run.call phase).isWrite = false
  · -- A call that writes nothing is answered by no creation and changes no document.
    obtain ⟨differ, _, same⟩ := race.store.status_ne_of_not_isWrite reads
    refine ⟨fun created => absurd created differ, fun _ id _ => ?_⟩
    have documents : (race.store.operate (.call (runner.run.call phase))).documents =
        race.store.documents := same
    rw [MemoryStore.document?, documents]
    rfl
  · cases phase with
    | querying | defining _ | reconciling => simp [Materializer.call, StoreCall.isWrite] at reads
    | installing document remaining =>
      obtain ⟨read, held, rfl⟩ := grounded runner (List.mem_of_getElem? here) document remaining waits
      have call := held.call_installing runner.run remaining
      have called : race.call? (.turn position) = some (.putDocument runner.run.design
          (read.setView runner.run.request.definition).toJson) := by
        simp [call?, here, Runner.call?, waits, call]
      rw [call]
      -- The trace of the call changes neither its status nor the documents.
      change (some (race.store.put runner.run.design
          (read.setView runner.run.request.definition).toJson).1.status = some 201 → _) ∧
        (some (race.store.put runner.run.design
          (read.setView runner.run.request.definition).toJson).1.status ≠ some 201 → _)
      constructor
      · intro created
        exact held.put_installs stamped (holds _) runner.run.request.definition
          (fun found present => objects found (.waiting called present)) (Option.some.inj created)
      · intro refused id nobody
        exact MemoryStore.document?_put_of_refused (fun accepted => refused (congrArg some accepted))
          nobody

/-- What another program does to the design document before the runs begin. -/
def labelled : Move :=
  .operate (.insert "_design/app" (.ofMembers [("language", .string "javascript")]))

/-- Two runs for one design document, one of which is about to write it for the second time. -/
def contested : Race :=
  ((ofRuns [usersRun "age", usersRun "name"] {}).after labelled).run [0, 1, 1, 0, 1, 0, 0]

/-- A run whose first write met that of another run adds its view beside the other one. -/
theorem turn_keeps_committed_contested :
    Reachable [usersRun "age", usersRun "name"] contested ∧
      ∃ runner phase, contested.runners[0]? = some runner ∧ runner.progress = .waiting phase ∧
        (∀ document, contested.OthersStore (.turn 0) document → document.IsObject) ∧
        (contested.store.answer (runner.run.call phase)).1.status? = some 201 ∧
        ∃ rev document, ¬contested.store.Gave rev ∧
          Installs runner.run.design runner.run.request.definition rev
            (contested.store.document? runner.run.design) document ∧
          (contested.turn 0).store.document? runner.run.design = some document ∧
          ∀ id, id ≠ runner.run.design →
            (contested.turn 0).store.document? id = contested.store.document? id := by
  -- The race is reached by a label and seven turns, in which nobody else writes.
  have begun : Reachable [usersRun "age", usersRun "name"]
      ((ofRuns [usersRun "age", usersRun "name"] {}).after labelled) := by
    refine .move .start labelled fun document stores => ?_
    cases stores with
    | inserted => exact ⟨_, rfl⟩
    | waiting writes waits => cases writes
  have reached : Reachable [usersRun "age", usersRun "name"] contested :=
    begun.run [0, 1, 1, 0, 1, 0, 0] ⟨rfl, rfl⟩
  have calm : contested.store.Calm := calm_run [0, 1, 1, 0, 1, 0, 0] ⟨rfl, rfl⟩
  have objects : ∀ document, contested.OthersStore (.turn 0) document → document.IsObject :=
    fun document stores => absurd stores (not_othersStore_turn calm 0 document)
  -- The calls up to here are computed, and so is the answer to the next one.
  have computed : (contested.call? (.turn 0)).map
      (fun call => (contested.store.answer call).1.status?) = some (some 201) := by
    decide +kernel
  cases here : contested.runners[0]? with
  | none => simp [call?, here] at computed
  | some runner =>
    cases waits : runner.progress with
    | finished outcome => simp [call?, here, Runner.call?, waits] at computed
    | waiting phase =>
      have accepted : (contested.store.answer (runner.run.call phase)).1.status? = some 201 := by
        simpa [call?, here, Runner.call?, waits] using computed
      exact ⟨reached, runner, phase, rfl, waits, objects, accepted,
        (turn_keeps_committed reached here waits objects).1 accepted⟩

end Race

end DocView
