import DocView.Proofs.Refusal
import DocView.Proofs.Store.Views

/-!
The first query of a store in which nothing is stored. It installs its view under the id that it was
given, and finds it there unless the id ends in a slash, which the address of the view leaves out.
-/

namespace DocView

namespace MemoryStore

/-- Whether nothing is stored and nobody else is about to write. -/
structure Blank (store : MemoryStore) : Prop where
  /-- No document is stored. -/
  documents : store.documents = ∅
  /-- No view has rows. -/
  rows : store.rows = ∅
  /-- A write is refused for no reason but its revision. -/
  calm : store.Calm

variable {store : MemoryStore}

/-- A store that is just made is blank. -/
theorem blank_empty : Blank {} := ⟨rfl, rfl, rfl, rfl⟩

/-- A blank store holds no document under any id. -/
theorem Blank.document? (blank : store.Blank) (id : String) : store.document? id = none := by
  rw [MemoryStore.document?, blank.documents]
  rfl

/-- A view of a design document that is not stored is answered to be missing. -/
theorem viewReply_of_absent {path query design name : String}
    (addressed : splitViewPath? path = some (design, name))
    (absent : store.document? design = none) :
    store.viewReply path query = ⟨404, (ErrorBody.notFound "missing").toJson⟩ := by
  have nothing : store.documents.get? design = none := absent
  simp [viewReply, addressed, viewExists, nothing, Entries.contains]

/-- A view of a blank store is missing. -/
theorem Blank.tellsMissing (blank : store.Blank) {run : Materializer} {design name : String}
    (addressed : splitViewPath? run.request.path = some (design, name)) :
    Materializer.TellsMissing (store.answer run.viewQuery).1 := by
  refine tellsMissing_of_lacking addressed ?_
  rw [blank.document? design]
  exact Bool.false_ne_true

/-- A design document of a blank store is read as a fresh one. -/
theorem Blank.readDocument (blank : store.Blank) (run : Materializer) :
    run.readDocument (store.answer run.documentRead).1 = .ok (.fresh run.design) := by
  have answered : (store.answer run.documentRead).1 = .ok (store.documentReply run.design) := rfl
  have nothing : store.documents.get? run.design = none := blank.document? run.design
  simp [answered, Materializer.readDocument, Materializer.documentOf, documentReply, nothing]

/-- The document that the first installation of a definition leaves. -/
def firstDocument (design rev : String) (definition : ViewDefinition) : Json :=
  .ofMembers [("_id", .string design), ("_rev", .string rev),
    ("views", .ofMembers [(definition.name, definition.toJson)])]

/-- A blank store stays so while it is only asked. -/
theorem Blank.operate (blank : store.Blank) (call : StoreCall) (asks : call.isWrite = false) :
    (store.answer call).2.Blank := by
  cases call with
  | putDocument id body => cases asks
  | queryView path query => exact ⟨blank.documents, blank.rows, blank.calm.unforced, blank.calm.alone⟩
  | getDocument id => exact ⟨blank.documents, blank.rows, blank.calm.unforced, blank.calm.alone⟩

/-- A fresh design document is written to a blank store, and nothing else is. -/
theorem Blank.write (blank : store.Blank) {run : Materializer} {call : StoreCall}
    (writes : call = run.documentWrite (.fresh run.design)) :
    (store.answer call).1.status? = some 201 ∧
      (∀ id, (store.answer call).2.document? id =
        if run.design = id then
          some (firstDocument run.design (store.nextRev run.design) run.request.definition)
        else none) ∧
      (store.answer call).2.rows = ∅ := by
  -- In a blank store no revision stands against a write, so the document goes in as it was sent.
  subst writes
  -- A fresh document is what a run reads where none is stored, so its write is not outdated.
  have held : store.Held run.design (.fresh run.design) :=
    ⟨rfl, fun _ => rfl, fun _ given => (by cases given), fun _ _ given => (by cases given)⟩
  have current : store.currentRev run.design = none := by
    rw [currentRev, blank.documents]
    rfl
  have stamped : store.Stamped := by
    intro id document stored
    rw [blank.document? id] at stored
    cases stored
  have holds : ∀ document, store.document? run.design = some document → document.IsObject := by
    intro document stored
    rw [blank.document? run.design] at stored
    cases stored
  have sent := (held.sentRev_toJson run.request.definition).trans current.symm
  obtain ⟨status, after⟩ := blank.calm.put_accepted sent
  have installs := held.installs stamped holds run.request.definition current.symm
  rw [blank.document? run.design] at installs
  refine ⟨congrArg some status, fun id => ?_, ?_⟩
  · -- The trace of the call changes no document.
    change (store.put run.design _).2.document? id = _
    rw [after, document?_write, blank.document? id]
    generalize stamp run.design (store.nextRev run.design) _ = document at installs ⊢
    cases installs
    rfl
  · change (store.put run.design _).2.rows = _
    rw [after]
    exact blank.rows

/-- A view in the only document of a store without rows is answered by no rows. -/
theorem viewReply_of_first {design rev path query : String} {definition : ViewDefinition}
    {range : KeyRange} (addressed : splitViewPath? path = some (design, definition.name))
    (stored : store.document? design = some (firstDocument design rev definition))
    (rows : store.rows = ∅) (read : KeyRange.ofQuery? query = .ok range) :
    store.viewReply path query = ⟨200, .ofMembers [("total_rows", .ofCount 0),
      ("offset", .ofCount 0), ("rows", .array [])]⟩ := by
  -- The document that was written has the view, and there are no rows to select from.
  have present : store.viewExists design definition.name = true := by
    have held : store.documents.get? design = some (firstDocument design rev definition) := stored
    simp [viewExists, held, firstDocument, Json.ofMembers, Json.get?, Table.ofList,
      Entries.get?_insert]
  have seeded : (store.rows.get? definition.name).getD [] = [] := by
    rw [rows]
    rfl
  -- Of no rows, none are selected, whatever the range and its limit.
  have nothing : range.select [] = [] := by
    simp only [KeyRange.select, sortRows, List.mergeSort_nil, List.filter_nil, List.reverse_nil,
      ite_self, List.take_nil]
    split <;> rfl
  simp only [viewReply, addressed, present, if_true, seeded]
  rw [answerRows_of_range [] read, nothing]
  rfl

end MemoryStore

namespace Materializer

variable {run : Materializer} {store : MemoryStore}

/--
A run on a blank store installs its view, and finds it if the path of the view addresses the document.

The design document is the only one that is stored. Where the path addresses another document, the
second query misses the view.
-/
theorem complete_of_blank (run : Materializer) (blank : store.Blank) (allowed : 0 < run.budget)
    {container : String}
    (addressed : splitViewPath? run.request.path = some (container, run.request.index))
    {range : KeyRange} (read : KeyRange.ofQuery? run.request.query = .ok range) :
    (∃ rev, ∀ id, (run.complete MemoryStore.answer store).store.document? id =
      if run.design = id then
        some (MemoryStore.firstDocument run.design rev run.request.definition)
      else none) ∧
    (run.complete MemoryStore.answer store).outcome =
      if run.design = container then .ok ⟨some 0, some 0, []⟩
      else .error (.postInstallFailed run.request.url 404 (ErrorBody.notFound "missing").toJson) := by
  -- The run goes through its four phases once, and each answer of the store is known on the way.
  obtain ⟨fewer, budget⟩ : ∃ fewer, run.budget = fewer + 1 :=
    Nat.exists_eq_succ_of_ne_zero (Nat.ne_of_gt allowed)
  have whole : ((run.complete MemoryStore.answer store).outcome,
      (run.complete MemoryStore.answer store).store) =
        run.ending MemoryStore.answer .querying store := rfl
  -- The view is missing.
  have asked : (run.resume .querying (store.answer (run.call .querying)).1).2 =
      .waiting (.defining run.budget) := by
    rw [call_querying, resume_querying_of_missing (blank.tellsMissing addressed), budget,
      attempt_succ]
  rw [ending_of_waiting asked] at whole
  have blank := blank.operate (run.call .querying) rfl
  generalize (store.answer (run.call .querying)).2 = store at whole blank
  -- The document is missing too, so it is to be written anew.
  have lacks : (DesignDocument.fresh run.design).hasDefinition run.request.definition = false := by
    simp [DesignDocument.hasDefinition, DesignDocument.view?, DesignDocument.fresh]
  rw [ending_of_waiting (resume_defining_of_lacking (blank.readDocument run) lacks)] at whole
  have blank := blank.operate (run.call (.defining run.budget)) rfl
  generalize (store.answer (run.call (.defining run.budget))).2 = store at whole blank
  -- Nobody else writes, so the document goes through.
  obtain ⟨status, stored, rows⟩ := blank.write (call_installing run (.fresh run.design) run.budget)
  rw [ending_of_waiting (resume_installing_of_written (.inl status)),
    ending_of_finished (resume_reconciling run _)] at whole
  generalize (store.answer (run.call (.installing
    ((DesignDocument.fresh run.design).setView run.request.definition) run.budget))).2 = last
      at whole stored rows
  obtain ⟨outcome, left⟩ := Prod.mk.inj whole
  -- The second query changes no document, and is answered by the one that was written.
  refine ⟨⟨store.nextRev run.design, fun id => ?_⟩, ?_⟩
  · rw [left]
    exact stored id
  · have answered : (last.answer (run.call .reconciling)).1 =
        .ok (last.viewReply run.request.path run.request.query) := rfl
    rw [outcome, answered]
    split
    · -- The path addresses the document that was written, which has the view.
      rename_i same
      subst same
      have own := stored run.design
      rw [if_pos rfl] at own
      rw [MemoryStore.viewReply_of_first addressed own rows read]
      have decoded : ViewResponse.ofJson? (.ofMembers [("total_rows", .ofCount 0),
          ("offset", .ofCount 0), ("rows", .array [])]) = .ok ⟨some 0, some 0, []⟩ := by
        decide +kernel
      simp only [reconciled, ViewRequest.readRows, decoded, if_true]
    · -- The path addresses another document, and there is none.
      rename_i differs
      have absent := stored container
      rw [if_neg differs] at absent
      rw [MemoryStore.viewReply_of_absent addressed absent]
      rfl

end Materializer

/--
A query of an empty store installs its view, and is answered if the view is asked where it is stored.

It is asked below the id without the slashes at its end. No value of the query nests too deep, and no
lower bound stands behind the end of key order.
-/
theorem Query.fetch_of_blank (query : Query) {scan : Scan}
    (compiled : Scan.ofClauses? query.plan.clauses = .ok scan)
    (within : BoundsWithin query.plan.clauses) (flat : ¬NestsTooDeep query.plan.clauses)
    (proper : checkDesignDocument query.plan.container = .ok ()) (allowed : 1 ≤ query.retryBudget) :
    (∃ rev, ∀ id, (query.fetch MemoryStore.answer {}).store.document? id =
      if query.plan.container = id then
        some (MemoryStore.firstDocument query.plan.container rev
          (.ofShape query.viewName query.shape))
      else none) ∧
    ∃ url, (query.fetch MemoryStore.answer {}).outcome =
      if query.plan.container = dropTrailing '/' query.plan.container then .ok ⟨some 0, some 0, []⟩
      else .error (.postInstallFailed url 404 (ErrorBody.notFound "missing").toJson) := by
  -- The run of the query meets a blank store, and its path is read back as the trimmed id and the
  -- name.
  obtain ⟨request, built⟩ := exists_request?_of_ofClauses? compiled
  obtain ⟨range, read⟩ := exists_range_of_request? built within flat
  have started := materializer?_of_request proper built
  -- The path leaves out the slashes at the end of the id, which the run keeps.
  have addressed := splitViewPath?_of_request? built
  obtain ⟨stored, outcome⟩ := Materializer.complete_of_blank
    ⟨query.plan.container, query.retryBudget.toNat, request⟩ MemoryStore.blank_empty allowed
    addressed read
  rw [definition_of_request? built] at stored
  rw [fetch_of_materializer? started]
  exact ⟨stored, request.url, outcome⟩

/--
The first query of an empty store installs its view, and is answered unless the id ends in a slash.

The clauses are equalities with any values that do not nest too deep. The document is stored under
the id as it was given, and a slash at its end has the view asked where nothing is stored.
-/
theorem fetch_first (query : Query) {pairs : List (String × Json)}
    (equal : query.plan.clauses = equalities pairs) (shallow : ∀ pair ∈ pairs, pair.2.depth ≤ 126)
    (proper : checkDesignDocument query.plan.container = .ok ()) (allowed : 1 ≤ query.retryBudget) :
    (∃ rev, ∀ id, (query.fetch MemoryStore.answer {}).store.document? id =
      if query.plan.container = id then
        some (MemoryStore.firstDocument query.plan.container rev
          (.ofShape query.viewName query.shape))
      else none) ∧
    (query.plan.container.toList.getLast? ≠ some '/' →
      (query.fetch MemoryStore.answer {}).outcome = .ok ⟨some 0, some 0, []⟩) ∧
    (query.plan.container.toList.getLast? = some '/' → ∃ url,
      (query.fetch MemoryStore.answer {}).outcome =
        .error (.postInstallFailed url 404 (ErrorBody.notFound "missing").toJson)) := by
  -- Equalities always compile, give no reversed range, and nest no deeper than their values.
  have compiled := ofClauses?_equalities pairs
  rw [← equal] at compiled
  have within := boundsWithin_equalities pairs
  have flat := not_nestsTooDeep_equalities shallow
  rw [← equal] at within flat
  obtain ⟨stored, url, outcome⟩ := query.fetch_of_blank compiled within flat proper allowed
  refine ⟨stored, ?_, ?_⟩
  · intro ends
    rw [outcome, if_pos (dropTrailing_eq_self ends).symm]
  · intro ends
    refine ⟨url, ?_⟩
    rw [outcome, if_neg fun same => dropTrailing_ne_self ends same.symm]

/-- A query of the pages with a field of the value one, with its view in a given design document. -/
def pagesIn (container : String) : Query where
  plan := {
    documentType := "Page"
    container
    clauses := equalities [("a", .ofCount 1)] }
  retryBudget := 1

/-- An id with a marker of view paths and an empty part in it is as good as any other. -/
theorem fetch_first_odd :
    (∃ rev, ∀ id, ((pagesIn "_design//_view/a").fetch MemoryStore.answer {}).store.document? id =
      if "_design//_view/a" = id then
        some (MemoryStore.firstDocument "_design//_view/a" rev
          (.ofShape (pagesIn "_design//_view/a").viewName (pagesIn "_design//_view/a").shape))
      else none) ∧
    ((pagesIn "_design//_view/a").fetch MemoryStore.answer {}).outcome =
      .ok ⟨some 0, some 0, []⟩ := by
  -- The id has the marker of a view in it, and yet it does not end in a slash.
  have proper : checkDesignDocument "_design//_view/a" = .ok () := by decide
  have ends : "_design//_view/a".toList.getLast? ≠ some '/' := by decide
  have shallow : ∀ pair ∈ [("a", Json.ofCount 1)], pair.2.depth ≤ 126 :=
    List.forall_mem_singleton.2 (by decide)
  have first := fetch_first (pagesIn "_design//_view/a") rfl shallow proper (by decide)
  exact ⟨first.1, first.2.1 ends⟩

/-- An id that ends in a slash is accepted, and the view that is installed in it is not found. -/
theorem fetch_first_slash :
    checkDesignDocument "_design/example/" = .ok () ∧
    ∃ url, ((pagesIn "_design/example/").fetch MemoryStore.answer {}).outcome =
      .error (.postInstallFailed url 404 (ErrorBody.notFound "missing").toJson) := by
  -- The path leaves out the last slash, so it addresses another document than the one written.
  have proper : checkDesignDocument "_design/example/" = .ok () := by decide
  have shallow : ∀ pair ∈ [("a", Json.ofCount 1)], pair.2.depth ≤ 126 :=
    List.forall_mem_singleton.2 (by decide)
  obtain ⟨_, url, outcome⟩ := (pagesIn "_design/example/").fetch_of_blank
    (ofClauses?_equalities _) (boundsWithin_equalities _) (not_nestsTooDeep_equalities shallow)
    proper (by decide)
  have differs : "_design/example/" ≠ dropTrailing '/' "_design/example/" := by decide
  exact ⟨proper, url, outcome.trans (if_neg differs)⟩

end DocView
