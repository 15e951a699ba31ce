import DocView.Proofs.Materializer.Discipline
import DocView.Proofs.Query
import DocView.Proofs.Race.Merge
import DocView.Proofs.Store.Views

/-!
Runs that race for one design document all come to an end with their views in it. A write of a run
is refused only after another run has written since the reading, and each run writes once; so a run
meets fewer conflicts than there are runs.
-/

namespace DocView

open Materializer (conflictCount Counted GivesUp TellsMissing TellsWritten TellsConflict)

/-- Whether a run ends because the design document could not be read or written. -/
def FailsToInstall (outcome : Outcome) : Prop :=
  ∃ index status body, outcome = .error (.installFailed index status body)

/-- Whether an exchange is a write that went through. -/
def Exchange.isInstall (exchange : Exchange) : Bool :=
  exchange.1.isWrite && exchange.2.status? == some 201

namespace Runner

/-- Whether a runner has written the design document. -/
def hasInstalled (runner : Runner) : Bool := runner.exchanges.any Exchange.isInstall

/-- What holds of a runner where it stands, if so many runners have written. -/
def Stands (design : String) (store : MemoryStore) (installed : Nat) (runner : Runner) :
    Progress → Prop
  -- Whoever is not to query for the last time has not written.
  | .waiting .querying => runner.hasInstalled = false
  | .waiting (.defining _) => runner.hasInstalled = false
  -- A document that was written since it was read leaves one write without a conflict so far.
  | .waiting (.installing document _) => runner.hasInstalled = false ∧
    (∃ read, store.Held design read ∧ document = read.setView runner.run.request.definition ∧
      (read.rev ≠ store.currentRev design → conflictCount runner.exchanges < installed))
  | .waiting .reconciling => store.viewExists design runner.run.request.index = true
  | .finished outcome => ¬GivesUp outcome ∧ ¬FailsToInstall outcome

/-- What holds of each runner of a race, if so many of its runners have written. -/
structure OnTrack (design : String) (count : Nat) (store : MemoryStore) (installed : Nat)
    (runner : Runner) : Prop where
  /-- The run is for the design document of the race. -/
  own : runner.run.design = design
  /-- The path of the run addresses its view. -/
  addressed : splitViewPath? runner.run.request.path = some (design, runner.run.request.index)
  /-- The budget allows as many attempts as there are runs. -/
  enough : count ≤ runner.run.budget
  /-- The attempts left and the conflicts so far make up the budget. -/
  counted : ∀ phase, runner.progress = .waiting phase →
    Counted runner.run.budget runner.exchanges phase
  /-- Each conflict is due to a write of its own. -/
  charged : conflictCount runner.exchanges ≤ installed
  /-- Conflicts are due to other runs. -/
  bounded : conflictCount runner.exchanges ≤ count - 1
  /-- The runner stands where it may. -/
  stands : runner.Stands design store installed runner.progress
  /-- No query but the first one misses the view. -/
  found : ∀ exchange ∈ runner.exchanges.tail, exchange.1.isQuery = true →
    exchange.2.status? ≠ some 404

variable {design : String} {count installed more : Nat} {store later : MemoryStore}
  {runner : Runner} {phase : Phase} {reply : Answer}

/-- A runner that waits stays on track while another one writes, or nobody does. -/
theorem OnTrack.idle {allowed : Json → Prop} (track : runner.OnTrack design count store installed)
    (evolves : MemoryStore.Evolves allowed store later)
    (kept : MemoryStore.KeepsViews design store later)
    (grown : installed ≤ more)
    (moved : later.currentRev design ≠ store.currentRev design → installed < more) :
    runner.OnTrack design count later more := by
  -- Where another runner is about to write, the revision that it read may be outdated by now.
  refine ⟨track.own, track.addressed, track.enough, track.counted,
    Nat.le_trans track.charged grown, track.bounded, ?_, track.found⟩
  have stands := track.stands
  cases progress : runner.progress with
  | finished outcome =>
    rw [progress] at stands
    exact stands
  | waiting phase =>
    rw [progress] at stands
    cases phase with
    | querying => exact stands
    | defining remaining => exact stands
    | reconciling => exact kept _ stands
    | installing document remaining =>
      obtain ⟨pending, read, held, same, stale⟩ := stands
      refine ⟨pending, read, held.evolves evolves, same, fun differs => ?_⟩
      -- If the revision has just moved on, the write that moved it is one more.
      have charged := track.charged
      by_cases still : later.currentRev design = store.currentRev design
      · rw [still] at differs
        exact Nat.lt_of_lt_of_le (stale differs) grown
      · have above := moved still
        omega

/-- Taking up an answer adds a conflict if it is one. -/
theorem conflictCount_receive (runner : Runner) (phase : Phase) (reply : Answer) :
    conflictCount (runner.receive phase reply).exchanges =
      conflictCount runner.exchanges + if TellsConflict reply then 1 else 0 :=
  Materializer.conflictCount_append runner.exchanges (runner.run.call phase, reply)

/-- Taking up an answer tells of a write that went through, or of none that was not known. -/
theorem hasInstalled_receive (runner : Runner) (phase : Phase) (reply : Answer) :
    (runner.receive phase reply).hasInstalled =
      (runner.hasInstalled || Exchange.isInstall (runner.run.call phase, reply)) := by
  simp [hasInstalled, receive, List.any_append]

/-- A runner stays on track with an answer that leads where it may stand. -/
theorem OnTrack.receive (track : runner.OnTrack design count store installed)
    (waits : runner.progress = .waiting phase)
    (charged : conflictCount (runner.receive phase reply).exchanges ≤ more)
    (bounded : conflictCount (runner.receive phase reply).exchanges ≤ count - 1)
    (stands : (runner.receive phase reply).Stands design later more
      (runner.run.resume phase reply).2)
    (found : phase = .reconciling → reply.status? ≠ some 404) :
    (runner.receive phase reply).OnTrack design count later more := by
  -- The attempts left are counted on, and one exchange is added.
  refine ⟨track.own, track.addressed, track.enough, ?_, charged, bounded, stands, ?_⟩
  · intro next goes
    exact (track.counted phase waits).leads (Materializer.leads_of_resume goes)
  · intro exchange member queries
    have after : (runner.receive phase reply).exchanges =
        runner.exchanges ++ [(runner.run.call phase, reply)] := rfl
    rw [after] at member
    cases earlier : runner.exchanges with
    | nil => simp [earlier] at member
    | cons first others =>
      have known := track.found
      simp only [earlier, List.cons_append, List.tail_cons, List.mem_append,
        List.mem_singleton] at member known
      rcases member with before | rfl
      · exact known exchange before queries
      · -- The first query stands before all others, so this is the last one.
        cases phase with
        | querying =>
          have none : runner.exchanges = [] := track.counted _ waits
          rw [earlier] at none
          cases none
        | reconciling => exact found rfl
        | defining _ | installing _ _ => cases queries

end Runner

section Outcomes

variable {run : Materializer}

/-- A run that ends with its first query has not failed to install anything. -/
theorem not_failsToInstall_answered (answer : Answer) : ¬FailsToInstall (run.answered answer) := by
  rintro ⟨index, status, body, same⟩
  cases Materializer.tellsOfInstall_answered same

/-- A run that ends with its second query has not failed to install anything. -/
theorem not_failsToInstall_reconciled (answer : Answer) :
    ¬FailsToInstall (run.reconciled answer) := by
  rintro ⟨index, status, body, same⟩
  cases Materializer.tellsOfInstall_reconciled same

end Outcomes

namespace Race

/-- What holds of a race at each point. -/
structure OnTrack (design : String) (count : Nat) (race : Race) : Prop where
  /-- The runs are alone with the store. -/
  calm : race.store.Calm
  /-- Stored objects carry their own ids and given revisions. -/
  stamped : race.store.Stamped
  /-- The design document can be read. -/
  proper : IsProper (race.store.document? design)
  /-- No run comes or goes. -/
  size : race.runners.length = count
  /-- Every runner is on track. -/
  each : ∀ runner ∈ race.runners,
    runner.OnTrack design count race.store (race.runners.countP Runner.hasInstalled)

variable {design : String} {count : Nat} {race : Race} {position : Nat} {runner after : Runner}

/-- As many runners have written as before, if the one that moves has not written now. -/
theorem countP_set_of_eq (here : race.runners[position]? = some runner)
    (same : after.hasInstalled = runner.hasInstalled) :
    (race.runners.set position after).countP Runner.hasInstalled =
      race.runners.countP Runner.hasInstalled := by
  -- The runner is counted after its turn exactly if it was counted before.
  obtain ⟨within, rfl⟩ := List.getElem?_eq_some_iff.1 here
  rw [List.countP_set within, same]
  split
  · rename_i installed
    have positive : 0 < race.runners.countP Runner.hasInstalled :=
      List.countP_pos_iff.2 ⟨_, List.getElem_mem within, installed⟩
    omega
  · omega

/-- One more runner has written, if the one that moves has written just now. -/
theorem countP_set_of_installed (here : race.runners[position]? = some runner)
    (before : runner.hasInstalled = false) (now : after.hasInstalled = true) :
    (race.runners.set position after).countP Runner.hasInstalled =
      race.runners.countP Runner.hasInstalled + 1 := by
  obtain ⟨within, rfl⟩ := List.getElem?_eq_some_iff.1 here
  rw [List.countP_set within, before, now]
  simp

/-- Not all runners have written, if one of them has not. -/
theorem countP_lt (here : race.runners[position]? = some runner)
    (before : runner.hasInstalled = false) :
    race.runners.countP Runner.hasInstalled < race.runners.length := by
  -- If all had written, so would the one that has not.
  refine Nat.lt_of_le_of_ne List.countP_le_length fun all => ?_
  have installed := List.countP_eq_length.1 all runner (List.mem_of_getElem? here)
  rw [before] at installed
  cases installed

/-- A race stays on track with a runner that does. -/
theorem OnTrack.set {allowed : Json → Prop} (track : race.OnTrack design count)
    {later : MemoryStore} (calm : later.Calm)
    (evolves : MemoryStore.Evolves allowed race.store later)
    (proper : IsProper (later.document? design))
    (kept : MemoryStore.KeepsViews design race.store later)
    (grown : race.runners.countP Runner.hasInstalled ≤
      (race.runners.set position after).countP Runner.hasInstalled)
    (moved : later.currentRev design ≠ race.store.currentRev design →
      race.runners.countP Runner.hasInstalled <
        (race.runners.set position after).countP Runner.hasInstalled)
    (own : after.OnTrack design count later
      ((race.runners.set position after).countP Runner.hasInstalled)) :
    (Race.mk later (race.runners.set position after)).OnTrack design count := by
  -- The others stay where they are, and the one that moved is put in its place.
  refine ⟨calm, track.stamped.evolves evolves, proper, ?_, ?_⟩
  · rw [List.length_set]
    exact track.size
  · intro other member
    rcases List.mem_or_eq_of_mem_set member with stayed | rfl
    · exact (track.each other stayed).idle evolves kept grown moved
    · exact own

/-- A call that writes nothing keeps a race on track if it leads where its runner may stand. -/
theorem OnTrack.turn_reading (track : race.OnTrack design count) {phase : Phase}
    (here : race.runners[position]? = some runner) (waits : runner.progress = .waiting phase)
    (reads : (runner.run.call phase).isWrite = false)
    (stands : ∀ later, MemoryStore.Evolves (fun _ => True) race.store later →
      later.documents = race.store.documents →
      (runner.receive phase (race.store.answer (runner.run.call phase)).1).Stands design later
        (race.runners.countP Runner.hasInstalled)
        (runner.run.resume phase (race.store.answer (runner.run.call phase)).1).2)
    (found : phase = .reconciling →
      (race.store.answer (runner.run.call phase)).1.status? ≠ some 404) :
    (race.turn position).OnTrack design count := by
  -- Nothing is stored, no conflict is met, and nobody has written.
  obtain ⟨_, unrefused, documents⟩ := race.store.status_ne_of_not_isWrite reads
  have calm_answer : ¬TellsConflict (race.store.answer (runner.run.call phase)).1 := unrefused
  have kept : (race.store.operate (.call (runner.run.call phase))).documents =
      race.store.documents := documents
  have own := track.each runner (List.mem_of_getElem? here)
  have evolves : MemoryStore.Evolves (fun _ => True) race.store
      (race.store.operate (.call (runner.run.call phase))) :=
    MemoryStore.evolves_operate fun _ _ => trivial
  have same : (runner.receive phase
      (race.store.answer (runner.run.call phase)).1).hasInstalled = runner.hasInstalled := by
    simp [Runner.hasInstalled_receive, Exchange.isInstall, reads]
  have unchanged := countP_set_of_eq here same
  have conflicts : conflictCount (runner.receive phase
      (race.store.answer (runner.run.call phase)).1).exchanges =
        conflictCount runner.exchanges := by
    rw [Runner.conflictCount_receive, if_neg calm_answer, Nat.add_zero]
  rw [turn_of_waiting here waits]
  refine track.set (track.calm.call _) evolves ?_ (.of_documents kept)
    (Nat.le_of_eq unchanged.symm) ?_ ?_
  · rw [MemoryStore.document?, kept]
    exact track.proper
  · intro moved
    rw [MemoryStore.currentRev, kept] at moved
    exact absurd rfl moved
  · rw [unchanged]
    refine own.receive waits ?_ ?_ (stands _ evolves kept) found
    · rw [conflicts]
      exact own.charged
    · rw [conflicts]
      exact own.bounded

/-- The first query keeps a race on track. -/
theorem OnTrack.turn_querying (track : race.OnTrack design count)
    (here : race.runners[position]? = some runner) (waits : runner.progress = .waiting .querying) :
    (race.turn position).OnTrack design count := by
  -- The query writes nothing, and a missing view leads to the first attempt.
  have own := track.each runner (List.mem_of_getElem? here)
  have pending := own.stands
  rw [waits] at pending
  refine track.turn_reading here waits rfl (fun later _ _ => ?_) nofun
  by_cases missing : TellsMissing (race.store.answer (runner.run.call .querying)).1
  · -- There is at least one run, so there is at least one attempt.
    have within := (List.getElem?_eq_some_iff.1 here).1
    obtain ⟨budget, some⟩ : ∃ budget, runner.run.budget = budget + 1 := by
      have enough := own.enough
      have size := track.size
      exact ⟨runner.run.budget - 1, by omega⟩
    rw [Materializer.resume_querying_of_missing missing, some, Materializer.attempt_succ]
    have installed : runner.hasInstalled = false := pending
    simp [Runner.Stands, Runner.hasInstalled_receive, installed, Exchange.isInstall,
      Materializer.call, StoreCall.isWrite]
  · rw [Materializer.resume_querying_of_decided missing]
    exact ⟨Materializer.not_givesUp_answered _, not_failsToInstall_answered _⟩

/-- The last query keeps a race on track, and finds the view. -/
theorem OnTrack.turn_reconciling (track : race.OnTrack design count)
    (here : race.runners[position]? = some runner)
    (waits : runner.progress = .waiting .reconciling) :
    (race.turn position).OnTrack design count := by
  -- The view that the run has seen or written is there still.
  have own := track.each runner (List.mem_of_getElem? here)
  have present := own.stands
  rw [waits] at present
  refine track.turn_reading here waits rfl (fun later _ _ => ?_) fun _ => ?_
  · rw [Materializer.resume_reconciling]
    exact ⟨Materializer.not_givesUp_reconciled _, not_failsToInstall_reconciled _⟩
  · exact MemoryStore.status_ne_of_viewExists own.addressed present

/-- The reading of the design document keeps a race on track. -/
theorem OnTrack.turn_defining (track : race.OnTrack design count) {remaining : Nat}
    (here : race.runners[position]? = some runner)
    (waits : runner.progress = .waiting (.defining remaining)) :
    (race.turn position).OnTrack design count := by
  -- The document can be read, and shows the views as they are stored.
  have own := track.each runner (List.mem_of_getElem? here)
  have pending := own.stands
  rw [waits] at pending
  have installed : runner.hasInstalled = false := pending
  have proper := track.proper
  have design_eq := own.own
  subst design_eq
  obtain ⟨read, found, latest, views⟩ :=
    MemoryStore.readDocument_of_isProper track.stamped track.proper
  have held := MemoryStore.held_of_readDocument track.stamped
    (MemoryStore.isObject_of_isProper track.proper) found
  refine track.turn_reading here waits rfl (fun later evolves kept => ?_) nofun
  have call : runner.run.call (.defining remaining) = runner.run.documentRead := rfl
  rw [call]
  cases present : read.hasDefinition runner.run.request.definition with
  | true =>
    rw [Materializer.resume_defining_of_present found present]
    have entry : (read.view? runner.run.request.index).isSome = true := by
      have equal : read.view? runner.run.request.definition.name = some _ :=
        of_decide_eq_true present
      exact Option.isSome_iff_exists.2 ⟨_, equal⟩
    have exists_before : race.store.viewExists runner.run.design runner.run.request.index = true :=
      views _ entry
    change later.viewExists runner.run.design runner.run.request.index = true
    rw [MemoryStore.viewExists, kept]
    exact exists_before
  | false =>
    rw [Materializer.resume_defining_of_lacking found present]
    refine ⟨?_, read, held.evolves evolves, rfl, fun differs => ?_⟩
    · simp [Runner.hasInstalled_receive, installed, Exchange.isInstall, Materializer.documentRead,
        StoreCall.isWrite, Materializer.call]
    · -- Nothing was written since the reading, which has just happened.
      rw [MemoryStore.currentRev, kept] at differs
      exact absurd latest differs

/-- A write of what is still stored keeps a race on track: its runner is one more that has written. -/
theorem OnTrack.turn_installing_of_latest (track : race.OnTrack design count)
    {read : DesignDocument} {remaining : Nat} (here : race.runners[position]? = some runner)
    (waits : runner.progress =
      .waiting (.installing (read.setView runner.run.request.definition) remaining))
    (pending : runner.hasInstalled = false) (held : race.store.Held design read)
    (latest : read.rev = race.store.currentRev design) :
    (race.turn position).OnTrack design count ∧
      MemoryStore.KeepsViews design race.store (race.turn position).store := by
  -- The write goes through, so one more runner counts as done, and nobody has a conflict more.
  have own := track.each runner (List.mem_of_getElem? here)
  have call := held.call_installing runner.run remaining
  have evolves : MemoryStore.Evolves (fun _ => True) race.store (race.store.operate
      (.call (.putDocument design (read.setView runner.run.request.definition).toJson))) :=
    MemoryStore.evolves_operate fun _ _ => trivial
  rw [turn_of_waiting here waits, call]
  generalize written : (read.setView runner.run.request.definition).toJson = body at *
  obtain ⟨status, proper, added, kept⟩ :=
    held.operate_of_latest track.calm track.stamped track.proper _ latest written
  generalize (race.store.answer (.putDocument design body)).1 = reply at status ⊢
  generalize phased : Phase.installing (read.setView runner.run.request.definition) remaining = phase
    at *
  have now : (runner.receive phase reply).hasInstalled = true := by
    simp [Runner.hasInstalled_receive, Exchange.isInstall, call, StoreCall.isWrite, status]
  have one_more := countP_set_of_installed here pending now
  have conflicts : conflictCount (runner.receive phase reply).exchanges =
      conflictCount runner.exchanges := by
    rw [Runner.conflictCount_receive, if_neg (by simp [TellsConflict, status]), Nat.add_zero]
  have charged := own.charged
  refine ⟨track.set (track.calm.call _) evolves proper kept (by omega) (fun _ => by omega) ?_, kept⟩
  refine own.receive waits (by omega) (by rw [conflicts]; exact own.bounded) ?_ ?_
  · rw [← phased, Materializer.resume_installing_of_written (.inl status)]
    exact added
  · rw [← phased]
    rintro ⟨⟩

/-- A write of what is no longer stored keeps a race on track: it is charged to a write in between. -/
theorem OnTrack.turn_installing_of_stale (track : race.OnTrack design count)
    {read : DesignDocument} {remaining : Nat} (here : race.runners[position]? = some runner)
    (waits : runner.progress =
      .waiting (.installing (read.setView runner.run.request.definition) remaining))
    (pending : runner.hasInstalled = false) (held : race.store.Held design read)
    (stale : read.rev ≠ race.store.currentRev design)
    (charged : conflictCount runner.exchanges < race.runners.countP Runner.hasInstalled) :
    (race.turn position).OnTrack design count ∧
      MemoryStore.KeepsViews design race.store (race.turn position).store := by
  -- The write meets a conflict, which another runner has paid for by its own write.
  have own := track.each runner (List.mem_of_getElem? here)
  have call := held.call_installing runner.run remaining
  have evolves : MemoryStore.Evolves (fun _ => True) race.store (race.store.operate
      (.call (.putDocument design (read.setView runner.run.request.definition).toJson))) :=
    MemoryStore.evolves_operate fun _ _ => trivial
  rw [turn_of_waiting here waits, call]
  generalize written : (read.setView runner.run.request.definition).toJson = body at *
  obtain ⟨status, documents⟩ := held.operate_of_stale track.calm _ stale written
  generalize (race.store.answer (.putDocument design body)).1 = reply at status ⊢
  generalize phased : Phase.installing (read.setView runner.run.request.definition) remaining = phase
    at *
  have same : (runner.receive phase reply).hasInstalled = runner.hasInstalled := by
    simp [Runner.hasInstalled_receive, Exchange.isInstall, status]
  have unchanged := countP_set_of_eq here same
  have conflicted : TellsConflict reply := status
  have conflicts : conflictCount (runner.receive phase reply).exchanges =
      conflictCount runner.exchanges + 1 := by
    rw [Runner.conflictCount_receive, if_pos conflicted]
  -- The runner itself has not written, so there are fewer writes than runners.
  have others := countP_lt here pending
  have size := track.size
  have kept : MemoryStore.KeepsViews design race.store
      (race.store.operate (.call (.putDocument design body))) := .of_documents documents
  refine ⟨track.set (track.calm.call _) evolves ?_ kept (by omega) ?_ ?_, kept⟩
  · rw [MemoryStore.document?, documents]
    exact track.proper
  · intro moved
    rw [MemoryStore.currentRev, documents] at moved
    exact absurd rfl moved
  · refine own.receive waits (by omega) (by omega) ?_ ?_
    · -- The budget allows one attempt more than there may be conflicts.
      have counted : 0 < remaining ∧ remaining + conflictCount runner.exchanges =
          runner.run.budget := by
        have balance := own.counted phase waits
        rw [← phased] at balance
        exact balance
      have enough := own.enough
      obtain ⟨left, some⟩ : ∃ left, remaining - 1 = left + 1 := ⟨remaining - 2, by omega⟩
      rw [← phased, Materializer.resume_installing_of_conflict conflicted, some,
        Materializer.attempt_succ, phased]
      exact same.trans pending
    · rw [← phased]
      rintro ⟨⟩

/-- Every turn keeps a race on track, and every view in the store. -/
theorem OnTrack.turn (track : race.OnTrack design count) (position : Nat) :
    (race.turn position).OnTrack design count ∧
      MemoryStore.KeepsViews design race.store (race.turn position).store := by
  -- By cases on what the runner waits for: three of the four phases read only.
  cases here : race.runners[position]? with
  | none =>
    rw [turn_of_none here]
    exact ⟨track, fun _ present => present⟩
  | some runner =>
    cases waits : runner.progress with
    | finished outcome =>
      rw [turn_of_finished here waits]
      exact ⟨track, fun _ present => present⟩
    | waiting phase =>
      have reading (reads : (runner.run.call phase).isWrite = false) :
          MemoryStore.KeepsViews design race.store (race.turn position).store := by
        rw [turn_of_waiting here waits]
        exact .of_documents (race.store.status_ne_of_not_isWrite reads).2.2
      cases phase with
      | querying => exact ⟨track.turn_querying here waits, reading rfl⟩
      | defining remaining => exact ⟨track.turn_defining here waits, reading rfl⟩
      | reconciling => exact ⟨track.turn_reconciling here waits, reading rfl⟩
      | installing document remaining =>
        -- The revision that was read tells whether another run has written since.
        have stands := (track.each runner (List.mem_of_getElem? here)).stands
        rw [waits] at stands
        obtain ⟨pending, read, held, rfl, charged⟩ := stands
        by_cases latest : read.rev = race.store.currentRev design
        · exact track.turn_installing_of_latest here waits pending held latest
        · exact track.turn_installing_of_stale here waits pending held latest (charged latest)

/-- Every schedule keeps a race on track, and every view in the store. -/
theorem OnTrack.run (schedule : List Nat) {race : Race} (track : race.OnTrack design count) :
    (race.run schedule).OnTrack design count ∧
      MemoryStore.KeepsViews design race.store (race.run schedule).store := by
  -- The invariant is carried from turn to turn, and so are the views.
  induction schedule generalizing race with
  | nil => exact ⟨track, fun _ present => present⟩
  | cons position later ih =>
    obtain ⟨turned, kept⟩ := track.turn position
    obtain ⟨ran, keeps⟩ := ih turned
    exact ⟨ran, kept.trans keeps⟩

/-- Runs that queries start on a proper design document begin on track. -/
theorem onTrack_ofRuns {runs : List Materializer} {store : MemoryStore}
    (proper_id : design.toList.getLast? ≠ some '/')
    (started : ∀ run ∈ runs, ∃ query : Query, query.plan.container = design ∧
      query.materializer? = .ok run)
    (enough : ∀ run ∈ runs, runs.length ≤ run.budget) (calm : store.Calm)
    (stamped : store.Stamped) (proper : IsProper (store.document? design)) :
    (ofRuns runs store).OnTrack design runs.length := by
  -- Nobody has made a call yet, so there is nothing to count.
  refine ⟨calm, stamped, proper, by simp [ofRuns], ?_⟩
  intro runner member
  obtain ⟨run, included, rfl⟩ := List.mem_map.1 member
  obtain ⟨query, container, started⟩ := started run included
  obtain ⟨own, _, index, path⟩ := Query.of_materializer? started
  refine ⟨own.trans container, ?_, enough run included, ?_, Nat.zero_le _, Nat.zero_le _, rfl, ?_⟩
  · have trimmed := dropTrailing_eq_self proper_id
    change splitViewPath? run.request.path = some (design, run.request.index)
    rw [path, index, container, splitViewPath?_viewPath, trimmed]
  · rintro phase ⟨⟩
    rfl
  · intro exchange member
    cases member

/--
Runs of queries that race for one design document install their views and meet few conflicts.

However their calls come to follow each other, no run is refused as often as there are runs, none
gives up or fails to install its view, and none misses the view when it queries for the second time.
A view that is there once stays there.
-/
theorem run_converges {runs : List Materializer} {history : List MemoryStore.Operation}
    (proper_id : design.toList.getLast? ≠ some '/')
    (started : ∀ run ∈ runs, ∃ query : Query, query.plan.container = design ∧
      query.materializer? = .ok run)
    (enough : ∀ run ∈ runs, runs.length ≤ run.budget)
    (calm : (MemoryStore.ofHistory history).Calm)
    (proper : IsProper ((MemoryStore.ofHistory history).document? design)) (schedule : List Nat) :
    (∀ runner ∈ ((ofRuns runs (MemoryStore.ofHistory history)).run schedule).runners,
      conflictCount runner.exchanges ≤ runs.length - 1 ∧
        (∀ outcome, runner.progress = .finished outcome →
          ¬GivesUp outcome ∧ ¬FailsToInstall outcome) ∧
        ∀ exchange ∈ runner.exchanges.tail, exchange.1.isQuery = true →
          exchange.2.status? ≠ some 404) ∧
    ∀ name, ((ofRuns runs (MemoryStore.ofHistory history)).run schedule).store.viewExists design
        name = true →
      ∀ later, (((ofRuns runs (MemoryStore.ofHistory history)).run schedule).run
        later).store.viewExists design name = true := by
  -- The invariant holds when the runs begin, and every turn keeps it.
  have begun := onTrack_ofRuns proper_id started enough calm
    (MemoryStore.stamped_ofHistory history) proper
  obtain ⟨track, _⟩ := begun.run schedule
  constructor
  · intro runner member
    have own := track.each runner member
    refine ⟨own.bounded, ?_, own.found⟩
    intro outcome done
    have stands := own.stands
    rw [done] at stands
    exact stands
  · intro name present later
    exact (track.run later).2 name present

/-- Another program has stored a design document with a view of its own. -/
def theirs : List MemoryStore.Operation :=
  [.insert "_design/app" (.ofMembers [("views", .ofMembers [("theirs", .null)])])]

/-- Two runs that are refused once race beside the view of another program. -/
theorem run_converges_two :
    (MemoryStore.ofHistory theirs).Calm ∧
    IsProper ((MemoryStore.ofHistory theirs).document? "_design/app") ∧
    (∀ runner ∈ ((ofRuns [usersRun "age", usersRun "name"] (MemoryStore.ofHistory theirs)).run
        [0, 1, 1, 0, 1, 0, 1, 0, 0, 0]).runners,
      conflictCount runner.exchanges ≤ 1 ∧
        (∀ outcome, runner.progress = .finished outcome →
          ¬GivesUp outcome ∧ ¬FailsToInstall outcome) ∧
        ∀ exchange ∈ runner.exchanges.tail, exchange.1.isQuery = true →
          exchange.2.status? ≠ some 404) ∧
    ∀ name, ((ofRuns [usersRun "age", usersRun "name"] (MemoryStore.ofHistory theirs)).run
        [0, 1, 1, 0, 1, 0, 1, 0, 0, 0]).store.viewExists "_design/app" name = true →
      ∀ later, (((ofRuns [usersRun "age", usersRun "name"] (MemoryStore.ofHistory theirs)).run
        [0, 1, 1, 0, 1, 0, 1, 0, 0, 0]).run later).store.viewExists "_design/app" name = true := by
  -- Two runs of one type meet in a document with a view of somebody else.
  have ends : "_design/app".toList.getLast? ≠ some '/' := by decide
  have calm : (MemoryStore.ofHistory theirs).Calm := ⟨rfl, rfl⟩
  have proper : IsProper ((MemoryStore.ofHistory theirs).document? "_design/app") := by
    rintro found ⟨⟩
    exact ⟨_, rfl, some (Table.ofList [("theirs", .null)]), by decide⟩
  refine ⟨calm, proper, run_converges ends ?_ ?_ calm proper [0, 1, 1, 0, 1, 0, 1, 0, 0, 0]⟩
  · intro run member
    rcases List.mem_pair.1 member with rfl | rfl
    · exact ⟨usersBy "age", rfl, materializer?_usersBy "age"⟩
    · exact ⟨usersBy "name", rfl, materializer?_usersBy "name"⟩
  · intro run member
    rcases List.mem_pair.1 member with rfl | rfl <;> decide

end Race

end DocView
