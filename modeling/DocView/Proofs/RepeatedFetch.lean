import DocView.Proofs.Query
import DocView.Proofs.Store.Views

/-!
A query that succeeded leaves a store that has its view. Whoever asks for the same view next is
answered at once, and the store keeps everything but the trace of that one call.
-/

namespace DocView

namespace Materializer

section Success

variable {run : Materializer} {answer : Answer} {response : ViewResponse}

/-- The first query brings rows only with success. -/
theorem status_of_answered (brings : run.answered answer = .ok response) :
    answer.status? = some 200 := by
  -- Any other status ends in an error, and so does a failure of the store.
  cases answer with
  | error reason => cases brings
  | ok reply =>
    simp only [answered] at brings
    split at brings
    · rename_i status
      exact congrArg some status
    · cases brings

/-- The second query brings rows only with success. -/
theorem status_of_reconciled (brings : run.reconciled answer = .ok response) :
    answer.status? = some 200 := by
  -- The second query is judged by the same status as the first, with other errors.
  cases answer with
  | error reason => cases brings
  | ok reply =>
    simp only [reconciled] at brings
    split at brings
    · rename_i status
      exact congrArg some status
    · cases brings

/-- An attempt that is about to begin brings no rows. -/
theorem attempt_ne_ok (run : Materializer) (remaining : Nat) (response : ViewResponse) :
    (run.attempt remaining).2 ≠ .finished (.ok response) := by
  -- It ends in an error, or goes on with a reading.
  cases remaining with
  | zero => simp [attempt_zero]
  | succ remaining => simp [attempt_succ]

/-- A run ends with rows only behind a query of its view that had success. -/
theorem answered_of_resume {phase : Phase}
    (brings : (run.resume phase answer).2 = .finished (.ok response)) :
    run.call phase = run.viewQuery ∧ answer.status? = some 200 := by
  -- Readings and writes of the design document lead on, or end in an error.
  cases phase with
  | querying =>
    by_cases missing : TellsMissing answer
    · rw [resume_querying_of_missing missing] at brings
      exact absurd brings (run.attempt_ne_ok run.budget response)
    · rw [resume_querying_of_decided missing] at brings
      exact ⟨rfl, status_of_answered (Progress.finished.inj brings)⟩
  | defining remaining =>
    cases found : run.readDocument answer with
    | error error =>
      rw [resume_defining_of_error found] at brings
      cases brings
    | ok document =>
      cases held : document.hasDefinition run.request.definition with
      | true =>
        rw [resume_defining_of_present found held] at brings
        cases brings
      | false =>
        rw [resume_defining_of_lacking found held] at brings
        cases brings
  | installing document remaining =>
    by_cases written : TellsWritten answer
    · rw [resume_installing_of_written written] at brings
      cases brings
    · by_cases conflicted : TellsConflict answer
      · rw [resume_installing_of_conflict conflicted] at brings
        exact absurd brings (run.attempt_ne_ok (remaining - 1) response)
      · rw [resume_installing_of_failed written conflicted] at brings
        cases brings
  | reconciling =>
    rw [resume_reconciling] at brings
    exact ⟨rfl, status_of_reconciled (Progress.finished.inj brings)⟩

/-- A run that brings rows leaves the store as the query does that had success. -/
theorem exists_answered_of_ending {σ : Type} (run : Materializer) (answer : Behaviour σ)
    (phase : Phase) (store : σ) (succeeded : (run.ending answer phase store).1 = .ok response) :
    ∃ state, (answer state run.viewQuery).1.status? = some 200 ∧
      (run.ending answer phase store).2 = (answer state run.viewQuery).2 := by
  -- Either the first call brings the rows, or the run from the next phase on does.
  induction phase, store using Materializer.runFrom.induct run answer with
  | case1 phase store call answered events outcome resumed =>
    have ends := ending_of_finished (congrArg Prod.snd resumed)
    rw [ends] at succeeded ⊢
    cases succeeded
    obtain ⟨asks, status⟩ := answered_of_resume (congrArg Prod.snd resumed)
    rw [← asks]
    exact ⟨store, status, rfl⟩
  | case2 phase store call answered events next resumed ih =>
    rw [ending_of_waiting (congrArg Prod.snd resumed)] at succeeded ⊢
    exact ih succeeded

end Success

section Present

variable {run : Materializer} {store : MemoryStore} {design name : String}

/-- A query that had success leaves a store that has its view. -/
theorem viewExists_of_status (addressed : splitViewPath? run.request.path = some (design, name))
    (status : (store.answer run.viewQuery).1.status? = some 200) :
    (store.answer run.viewQuery).2.viewExists design name = true := by
  -- The query changes no document, and without the view it is answered by a 404.
  change store.viewExists design name = true
  refine Decidable.byContradiction fun lacks => ?_
  have missing :=
    MemoryStore.tellsMissing_of_lacking addressed (mt MemoryStore.viewExists_iff.2 lacks)
  have answered : (store.answer run.viewQuery).1 =
      .ok (store.viewReply run.request.path run.request.query) := rfl
  rw [answered] at missing status
  exact absurd (missing.1.symm.trans (Option.some.inj status)) (by decide)

/-- A run whose view is there makes one call, and the store keeps the trace of it and no more. -/
theorem complete_of_viewExists (addressed : splitViewPath? run.request.path = some (design, name))
    (present : store.viewExists design name = true) :
    (run.complete MemoryStore.answer store).exchanges =
        [(run.viewQuery, .ok (store.viewReply run.request.path run.request.query))] ∧
      (run.complete MemoryStore.answer store).store =
        store.note (.view run.request.path run.request.query) := by
  -- A view that is there is not answered by a 404, so the first query decides.
  have decided : ¬TellsMissing (store.answer run.viewQuery).1 := by
    intro missing
    exact MemoryStore.status_ne_of_viewExists addressed present (congrArg some missing.1)
  have whole : run.remainder MemoryStore.answer store (.waiting .querying) =
      ((run.complete MemoryStore.answer store).exchanges,
        (run.complete MemoryStore.answer store).outcome) := rfl
  rw [remainder_waiting, call_querying, resume_querying_of_decided decided,
    remainder_finished] at whole
  have single := (Prod.mk.inj whole).1
  refine ⟨single.symm, ?_⟩
  rw [store_complete, ← single]
  rfl

end Present

end Materializer

/--
A query that succeeds makes the next one of the same view free, whatever else the two ask for.

The next query is one call to the view, which is answered. Of the store it changes the trace of the
calls: no document, no revision, no waiting writer and no conflict to come.
-/
theorem fetch_repeated {first second : Query} (built : second.Built)
    (types : first.plan.documentType = second.plan.documentType)
    (fields : first.plan.fields = second.plan.fields)
    (containers : first.plan.container = second.plan.container)
    {store left : MemoryStore} {response : ViewResponse}
    (succeeded : (first.fetch MemoryStore.answer store).outcome = .ok response)
    (leaves : (first.fetch MemoryStore.answer store).store = left) :
    ∃ text reply,
      (second.fetch MemoryStore.answer left).exchanges =
        [(.queryView (viewPath second.plan.container second.viewName) text, .ok reply)] ∧
      (second.fetch MemoryStore.answer left).store = { left with
        requests :=
          left.requests ++ [.view (viewPath second.plan.container second.viewName) text] } := by
  -- The name of a view is made of the type and the fields alone.
  have names : first.viewName = second.viewName := by
    rw [Query.viewName, Query.viewName, types, fields]
  cases started : first.materializer? with
  | error error =>
    rw [Query.fetch, started] at succeeded
    cases succeeded
  | ok run =>
    -- Both queries ask for the view by one path.
    have path : run.request.path = viewPath second.plan.container second.viewName := by
      rw [(Query.of_materializer? started).2.2.2, names, containers]
    have addressed : splitViewPath? run.request.path =
        some (dropTrailing '/' second.plan.container, second.viewName) := by
      rw [path, splitViewPath?_viewPath]
    -- The last call of the first query finds the view, and the store stays as that call leaves it.
    rw [Query.fetch_of_materializer? started] at succeeded leaves
    obtain ⟨state, status, same⟩ := run.exists_answered_of_ending MemoryStore.answer .querying store
      succeeded
    have present :
        left.viewExists (dropTrailing '/' second.plan.container) second.viewName = true := by
      have found := Materializer.viewExists_of_status addressed status
      rw [← same] at found
      rw [← leaves]
      exact found
    -- So the second query has nothing to install.
    obtain ⟨request, sent⟩ := built.request?
    have proper : checkDesignDocument second.plan.container = .ok () := by
      rw [← containers]
      exact Query.proper_of_materializer? started
    obtain ⟨next, restarted⟩ : ∃ next, second.materializer? = .ok next :=
      ⟨_, Query.materializer?_of_request proper sent⟩
    have asks := (Query.of_materializer? restarted).2.2.2
    have found : splitViewPath? next.request.path =
        some (dropTrailing '/' second.plan.container, second.viewName) := by
      rw [asks, splitViewPath?_viewPath]
    obtain ⟨exchanges, kept⟩ := Materializer.complete_of_viewExists found present
    rw [Query.fetch_of_materializer? restarted, ← asks]
    exact ⟨next.request.query, _, exchanges, kept⟩

/-- A query of the pages up to a title, of which at most one is asked for. -/
def pagesUpTo (title : String) : Query where
  plan := {
    documentType := "Page"
    container := "_design/example"
    limit := some 1
    clauses := [.range "title" .upper (.string title)] }
  retryBudget := 0

/-- A query of the pages of one title, with their documents. -/
def pagesCalled (title : String) : Query where
  plan := {
    documentType := "Page"
    container := "_design/example"
    includeDocs := true
    clauses := [.equality "title" (.string title)] }
  retryBudget := 5

/-- A store that refuses one write, and in which others wait to write. -/
def busyStore : MemoryStore where
  forcedConflicts := 1
  writers := [("_design/example", .set (.string "javascript") ["language"]),
    ("_design/other", .replace .null)]

/-- A query with no attempt of its own finds what another one has installed against resistance. -/
theorem fetch_repeated_busy :
    (pagesUpTo "m").Built ∧ ∃ response,
      ((pagesCalled "a").fetch MemoryStore.answer busyStore).outcome = .ok response ∧
      ∃ left, ((pagesCalled "a").fetch MemoryStore.answer busyStore).store = left ∧
      ∃ text reply,
        ((pagesUpTo "m").fetch MemoryStore.answer left).exchanges =
          [(.queryView (viewPath "_design/example" (pagesUpTo "m").viewName) text, .ok reply)] ∧
        ((pagesUpTo "m").fetch MemoryStore.answer left).store = { left with
          requests := left.requests ++
            [.view (viewPath "_design/example" (pagesUpTo "m").viewName) text] } := by
  -- The first query finds the view of the store, and the second one differs in its clauses alone.
  have begins : Query.ofType? "Page" { retryBudget := 0 } =
      .ok ⟨{ documentType := "Page", container := "_design/example" }, 0⟩ := rfl
  have added : Query.addClause
      ⟨{ documentType := "Page", container := "_design/example", limit := some 1 }, 0⟩
        (.range "title" .upper (.string "m")) = .ok (pagesUpTo "m") := rfl
  have built : (pagesUpTo "m").Built := .extended (.limited (.begun begins) (some 1)) added
  have succeeded : ((pagesCalled "a").fetch MemoryStore.answer busyStore).outcome =
      .ok ⟨some 0, some 0, []⟩ := by
    decide +kernel
  have types : (pagesCalled "a").plan.documentType = (pagesUpTo "m").plan.documentType := rfl
  exact ⟨built, _, succeeded, _, rfl, fetch_repeated built types rfl rfl succeeded rfl⟩

end DocView
