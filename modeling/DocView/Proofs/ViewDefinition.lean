import DocView.Proofs.Query
import DocView.Proofs.Race
import DocView.Proofs.ViewName

/-!
What is installed for a query, and what the name of a view leaves open of it. A name tells the type
and the fields of a view, but a definition also depends on whether the rows bring their documents,
and no name tells that.
-/

namespace DocView

/-- The entry of a definition holds its source and the name of its reduction, and no more. -/
theorem ViewDefinition.get?_toJson (definition : ViewDefinition) (name : String) :
    definition.toJson.get? name =
      if name = "map" then some (.string definition.mapSource)
      else if name = "reduce" then some (.string definition.reducer.name)
      else none := by
  -- The reduction is put in last, and its name is another one than that of the source.
  simp only [toJson, Reducer.toJson, Json.ofMembers, Json.get?, Table.ofList, List.foldl_cons,
    List.foldl_nil, Entries.get?_insert, Entries.get?_empty, eq_comm (b := name)]
  by_cases map : name = "map"
  · rw [if_pos map, if_pos map, if_neg (by rw [map]; decide)]
  · rw [if_neg map, if_neg map]

/-- The entry of a definition tells its source and its reduction. -/
theorem ViewDefinition.of_toJson_eq {definition other : ViewDefinition}
    (same : definition.toJson = other.toJson) :
    definition.mapSource = other.mapSource ∧ definition.reducer = other.reducer := by
  -- The source and the name of the reduction are both read from the members.
  have maps := congrArg (·.get? "map") same
  have reductions := congrArg (·.get? "reduce") same
  simp only [get?_toJson] at maps reductions
  refine ⟨by simpa using maps, ?_⟩
  -- The two reductions have different names.
  have names : definition.reducer.name = other.reducer.name := by simpa using reductions
  cases own : definition.reducer <;> cases theirs : other.reducer
  · rfl
  · rw [own, theirs] at names
    exact absurd names (by decide)
  · rw [own, theirs] at names
    exact absurd names (by decide)
  · rfl

/-- What a query installs emits its own rows, and counts documents where it brings them. -/
theorem Query.get?_definition {query : Query} {request : ViewRequest}
    (sent : query.request? = .ok request) (name : String) :
    request.definition.toJson.get? name =
      if name = "map" then some (.string query.shape.mapSource)
      else if name = "reduce" then
        some (.string (if query.plan.includeDocs then "_count" else "_stats"))
      else none := by
  -- The two reductions go by the names that stores know them by.
  have reduction : (ViewDefinition.ofShape query.viewName query.shape).reducer.name =
      if query.plan.includeDocs then "_count" else "_stats" := by
    cases documents : query.plan.includeDocs <;>
      simp [ViewDefinition.ofShape, ViewShape.reducer, shape, documents, Reducer.name]
  rw [definition_of_request? sent, ViewDefinition.get?_toJson, reduction]
  rfl

/-- A definition that is put in is the one that is looked for under its name, or another one. -/
theorem DesignDocument.hasDefinition_setView (document : DesignDocument)
    {definition other : ViewDefinition} (named : definition.name = other.name) :
    (document.setView definition).hasDefinition other = true ↔ definition = other := by
  -- The entry that was put in last is the one that is found, so two entries are compared.
  rw [hasDefinition, view?, setView, named, Entries.get?_insert, if_pos rfl, decide_eq_true_eq,
    Option.some.injEq]
  constructor
  · -- Name, source and reduction are all there is to a definition.
    intro same
    obtain ⟨sources, reducers⟩ := ViewDefinition.of_toJson_eq same
    cases definition
    cases other
    cases named
    cases sources
    cases reducers
    rfl
  · rintro rfl
    rfl

/-- Two shapes of one type and the same fields need one definition if they agree on the documents. -/
theorem ViewDefinition.ofShape_eq_iff (name documentType : String) (fields : List String)
    (includeDocs others : Bool) :
    ofShape name ⟨documentType, fields, includeDocs⟩ = ofShape name ⟨documentType, fields, others⟩ ↔
      includeDocs = others := by
  -- The two definitions can only differ in what depends on the documents.
  constructor
  · intro same
    -- Rows that bring their documents are counted, and the others are summed up.
    have reducers : (if includeDocs then Reducer.count else .stats) =
        if others then Reducer.count else .stats := congrArg ViewDefinition.reducer same
    cases includeDocs <;> cases others
    · rfl
    · exact absurd reducers (by decide)
    · exact absurd reducers (by decide)
    · rfl
  · rintro rfl
    rfl

/--
Two queries of one view need the same definition exactly if both bring documents or neither does.

Then each of them finds under the name what it needs, after the other one has put it in. The queries
are built by any calls, and both of them can be sent.
-/
theorem definition_eq_iff_of_viewName {query other : Query} (built : query.Built)
    (otherBuilt : other.Built) (same : query.viewName = other.viewName) :
    ∃ request otherRequest, query.request? = .ok request ∧ other.request? = .ok otherRequest ∧
      (request.definition = otherRequest.definition ↔
        query.plan.includeDocs = other.plan.includeDocs) ∧
      ∀ document : DesignDocument,
        (document.setView request.definition).hasDefinition otherRequest.definition = true ↔
          query.plan.includeDocs = other.plan.includeDocs := by
  -- The name leaves out whether documents are brought, and the definition does not.
  obtain ⟨request, sent⟩ := built.request?
  obtain ⟨otherRequest, otherSent⟩ := otherBuilt.request?
  -- The type and the fields are read back from the name.
  have parts := congrArg nameParts same
  rw [Query.viewName, Query.viewName, nameParts_viewName, nameParts_viewName] at parts
  obtain ⟨types, fields⟩ := List.cons.inj (List.cons.inj parts).2
  have shapes : query.shape = ⟨other.plan.documentType, other.plan.fields,
      query.plan.includeDocs⟩ := by
    rw [Query.shape, types, fields]
  have agree : request.definition = otherRequest.definition ↔
      query.plan.includeDocs = other.plan.includeDocs := by
    rw [Query.definition_of_request? sent, Query.definition_of_request? otherSent, shapes, same]
    exact ViewDefinition.ofShape_eq_iff ..
  -- One name stands for one entry of the document, which is the one that was put in last.
  have named : request.definition.name = otherRequest.definition.name := by
    rw [Query.definition_of_request? sent, Query.definition_of_request? otherSent]
    exact same
  refine ⟨request, otherRequest, sent, otherSent, agree, fun document => ?_⟩
  exact (document.hasDefinition_setView named).trans agree

/-- A query of the pages with a field of the value one, whose rows bring their documents or do not. -/
def numberedPages (includeDocs : Bool) : Query where
  plan := {
    documentType := "Page"
    container := "_design/example"
    clauses := [.equality "a" (.ofCount 1)]
    includeDocs }
  retryBudget := 5

/-- Such queries are built in two calls. -/
theorem built_numberedPages (includeDocs : Bool) : (numberedPages includeDocs).Built := by
  -- The query is begun for its type, and then one equality is added.
  have begins : Query.ofType? "Page" { includeDocs } = .ok ⟨{
      documentType := "Page", container := "_design/example", includeDocs }, 5⟩ := rfl
  have added : Query.addClause ⟨{
      documentType := "Page", container := "_design/example", includeDocs }, 5⟩
        (.equality "a" (.ofCount 1)) = .ok (numberedPages includeDocs) := rfl
  exact .extended (.begun begins) added

/-- A query finds under the name what it needs, put in by one that differs in its limit alone. -/
theorem definition_eq_iff_limited :
    ∃ request otherRequest, (numberedPages true).request? = .ok request ∧
      ((numberedPages true).withLimit (some 1)).request? = .ok otherRequest ∧
      (request.definition = otherRequest.definition ↔ true = true) ∧
      ∀ document : DesignDocument,
        (document.setView request.definition).hasDefinition otherRequest.definition = true ↔
          true = true :=
  definition_eq_iff_of_viewName (built_numberedPages true)
    ((built_numberedPages true).limited (some 1)) rfl

/-- The run of such a query. -/
def numberedRun (includeDocs : Bool) : Materializer where
  design := "_design/example"
  budget := 5
  request := {
    index := (numberedPages includeDocs).viewName
    path := viewPath "_design/example" (numberedPages includeDocs).viewName
    query := Scan.queryString { key := some [.ofCount 1], includeDocs }
    shape := ⟨"Page", ["a"], includeDocs⟩ }

/-- Such a query starts its run. -/
theorem materializer?_numberedPages (includeDocs : Bool) :
    (numberedPages includeDocs).materializer? = .ok (numberedRun includeDocs) := by
  have checked : checkDesignDocument (numberedPages includeDocs).plan.container = .ok () :=
    (by decide : checkDesignDocument "_design/example" = .ok ())
  rw [Query.materializer?, checked]
  rfl

/-- The entry of the view of these queries in a race. -/
def numberedEntry (race : Race) : Option Json :=
  (race.store.designDocument? "_design/example").bind (·.view? "QC-Page-a")

/--
Of two queries of one name, the one with documents replaces the definition of the one without.

Both have missed the view and the design document. The first one has written its definition, the
second one was refused, reads that there is another definition and writes its own.
-/
theorem definition_replaced :
    (numberedPages false).Built ∧ (numberedPages true).Built ∧
    (numberedPages false).viewName = (numberedPages true).viewName ∧
    (numberedPages false).materializer? = .ok (numberedRun false) ∧
    (numberedPages true).materializer? = .ok (numberedRun true) ∧
    (numberedRun false).request.definition ≠ (numberedRun true).request.definition ∧
    numberedEntry ((Race.ofRuns [numberedRun false, numberedRun true] {}).run [0, 1, 0, 1, 0]) =
      some (numberedRun false).request.definition.toJson ∧
    numberedEntry
        ((Race.ofRuns [numberedRun false, numberedRun true] {}).run [0, 1, 0, 1, 0, 1, 1, 1]) =
      some (numberedRun true).request.definition.toJson := by
  -- The definitions differ in their reductions, and what the races leave is computed.
  refine ⟨built_numberedPages false, built_numberedPages true, rfl,
    materializer?_numberedPages false, materializer?_numberedPages true, ?_, ?_, ?_⟩
  · intro same
    have documents := (ViewDefinition.ofShape_eq_iff _ "Page" ["a"] false true).1 same
    cases documents
  · decide +kernel
  · decide +kernel

end DocView
