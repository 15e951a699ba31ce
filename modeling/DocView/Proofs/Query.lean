import DocView.Proofs.Scan
import DocView.Proofs.ViewPath
import DocView.Query

/-! Every query that was built makes a request, and what its request and its run are for. -/

namespace DocView.Query

/-- The queries that are built call by call. -/
inductive Built : Query → Prop where
  /-- A query begins with the type of its documents. -/
  | begun {documentType : String} {config : ViewConfig} {query : Query}
    (begins : ofType? documentType config = .ok query) : Built query
  /-- A condition is added. -/
  | filtered {query next : Query} {condition : String} {value : Json} (built : Built query)
    (added : query.filter condition value = .ok next) : Built next
  /-- An order is added. -/
  | ordered {query next : Query} {instruction : String} (built : Built query)
    (added : query.order instruction = .ok next) : Built next
  /-- A clause is added as it is. -/
  | extended {query next : Query} {clause : Clause} (built : Built query)
    (added : query.addClause clause = .ok next) : Built next
  /-- The rows are to bring their documents, or not to. -/
  | documents {query : Query} (built : Built query) (includeDocs : Bool) :
    Built (query.withDocuments includeDocs)
  /-- The rows are limited, or not. -/
  | limited {query : Query} (built : Built query) (limit : Option UInt64) :
    Built (query.withLimit limit)

/-- A clause is added only if the clauses compile with it. -/
theorem ofClauses?_of_addClause {query next : Query} {clause : Clause}
    (added : query.addClause clause = .ok next) :
    ∃ scan, Scan.ofClauses? next.plan.clauses = .ok scan := by
  -- The longer list is compiled first, and its rejection would be the result.
  unfold addClause at added
  cases compiled : Scan.ofClauses? (query.plan.clauses ++ [clause]) with
  | ok scan =>
    simp only [compiled, Except.ok.injEq] at added
    subst added
    exact ⟨scan, compiled⟩
  | error rejection =>
    simp only [compiled] at added
    cases added

/-- The clauses of a query that was built compile. -/
theorem Built.ofClauses? {query : Query} (built : query.Built) :
    ∃ scan, Scan.ofClauses? query.plan.clauses = .ok scan := by
  -- By induction on the calls: each leaves a list of clauses that compiles.
  induction built with
  | begun begins =>
    -- There is no clause yet, and no clauses compile.
    unfold ofType? at begins
    split at begins
    · cases begins
    · cases begins
      exact ⟨_, rfl⟩
  -- A call that adds a clause compiles all of them, and fails where they do not.
  | @filtered query next condition value _ added _ =>
    unfold filter at added
    cases read : Clause.ofCondition? condition value with
    | error rejection =>
      rw [read] at added
      cases added
    | ok clause =>
      rw [read] at added
      exact ofClauses?_of_addClause added
  | @ordered query next instruction _ added _ =>
    unfold order at added
    cases read : Clause.ofInstruction? instruction with
    | error rejection =>
      rw [read] at added
      cases added
    | ok clause =>
      rw [read] at added
      exact ofClauses?_of_addClause added
  | extended _ added _ => exact ofClauses?_of_addClause added
  -- Neither the documents nor the limit are a clause.
  | documents _ _ ih => exact ih
  | limited _ _ ih => exact ih

/-- A query of clauses that compile asks for a scan. -/
theorem scan?_of_ofClauses? {query : Query} {scan : Scan}
    (compiled : Scan.ofClauses? query.plan.clauses = .ok scan) :
    query.scan? = .ok { scan with
      includeDocs := query.plan.includeDocs, limit := query.plan.limit } := by
  -- The documents and the limit are put into the scan, and cannot fail.
  rw [scan?, QueryPlan.scan?, compiled]
  rfl

/-- A query asks for what its clauses compile to, with the documents and the limit it was given. -/
theorem of_scan? {query : Query} {scan : Scan} (scanned : query.scan? = .ok scan) :
    ∃ state, Shape query.plan.clauses state ∧
      scan = { state.scan with
        includeDocs := query.plan.includeDocs, limit := query.plan.limit } := by
  -- The clauses compile to the scan of a state, and the plan adds what is no clause.
  unfold scan? QueryPlan.scan? at scanned
  cases compiled : Scan.ofClauses? query.plan.clauses with
  | error rejection =>
    rw [compiled] at scanned
    cases scanned
  | ok bare =>
    obtain ⟨state, shape, rfl⟩ := shape_of_ofClauses? compiled
    rw [compiled] at scanned
    exact ⟨state, shape, (Except.ok.inj scanned).symm⟩

/-- A scan that a query asks for makes a request of the view of the query. -/
theorem request?_of_scan? {query : Query} {scan : Scan} (scanned : query.scan? = .ok scan) :
    query.request? = .ok
      { index := query.viewName
        path := viewPath query.plan.container query.viewName
        query := scan.queryString
        shape := query.shape } := by
  rw [request?, scanned]
  rfl

/-- A query of clauses that compile makes a request. -/
theorem exists_request?_of_ofClauses? {query : Query} {scan : Scan}
    (compiled : Scan.ofClauses? query.plan.clauses = .ok scan) :
    ∃ request, query.request? = .ok request := by
  exact ⟨_, request?_of_scan? (scan?_of_ofClauses? compiled)⟩

/-- A query that was built makes a request. -/
theorem Built.request? {query : Query} (built : query.Built) :
    ∃ request, query.request? = .ok request := by
  obtain ⟨scan, compiled⟩ := built.ofClauses?
  exact exists_request?_of_ofClauses? compiled

/-- A request is built from a scan that the query asks for. -/
theorem exists_scan_of_request? {query : Query} {request : ViewRequest}
    (built : query.request? = .ok request) :
    ∃ scan, query.scan? = .ok scan ∧
      request = ⟨query.viewName, viewPath query.plan.container query.viewName, scan.queryString,
        query.shape⟩ := by
  -- Where the clauses are rejected there is no request either.
  cases scanned : query.scan? with
  | error rejection =>
    rw [request?, scanned] at built
    cases built
  | ok scan =>
    rw [request?_of_scan? scanned] at built
    exact ⟨scan, rfl, (Except.ok.inj built).symm⟩

/-- A request that is built asks the view of the query for what the clauses compile to. -/
theorem of_request? {query : Query} {request : ViewRequest} (built : query.request? = .ok request) :
    request.path = viewPath query.plan.container query.viewName ∧
      ∃ state, Shape query.plan.clauses state ∧
        request.query = Scan.queryString { state.scan with
          includeDocs := query.plan.includeDocs, limit := query.plan.limit } := by
  obtain ⟨scan, scanned, rfl⟩ := exists_scan_of_request? built
  obtain ⟨state, shape, rfl⟩ := of_scan? scanned
  exact ⟨rfl, state, shape, by dsimp only⟩

/-- A request that is built names the view of the query. -/
theorem index_of_request? {query : Query} {request : ViewRequest}
    (built : query.request? = .ok request) : request.index = query.viewName := by
  obtain ⟨scan, _, rfl⟩ := exists_scan_of_request? built
  rfl

/-- A request that is built addresses its view below the document without the slashes at its end. -/
theorem splitViewPath?_of_request? {query : Query} {request : ViewRequest}
    (built : query.request? = .ok request) :
    splitViewPath? request.path = some (dropTrailing '/' query.plan.container, request.index) := by
  rw [(of_request? built).1, index_of_request? built, splitViewPath?_viewPath]

/-- A request that is built installs what the query indexes. -/
theorem definition_of_request? {query : Query} {request : ViewRequest}
    (built : query.request? = .ok request) :
    request.definition = .ofShape query.viewName query.shape := by
  obtain ⟨scan, _, rfl⟩ := exists_scan_of_request? built
  rfl

/-- A query whose design document has no proper id starts no run. -/
theorem materializer?_of_improper {query : Query} {fault : ConfigFault}
    (improper : checkDesignDocument query.plan.container = .error fault) :
    query.materializer? = .error (.store fault.error) := by
  rw [materializer?, improper]
  rfl

/-- A query whose request cannot be built starts no run. -/
theorem materializer?_of_rejected {query : Query} {rejection : Rejection}
    (proper : checkDesignDocument query.plan.container = .ok ())
    (rejected : query.request? = .error rejection) :
    query.materializer? = .error (.rejected rejection) := by
  rw [materializer?, proper, rejected]
  rfl

/-- A query starts the run of the request that is built for it. -/
theorem materializer?_of_request {query : Query} {request : ViewRequest}
    (proper : checkDesignDocument query.plan.container = .ok ())
    (built : query.request? = .ok request) :
    query.materializer? = .ok ⟨query.plan.container, query.retryBudget.toNat, request⟩ := by
  rw [materializer?, proper, built]
  rfl

/-- A query starts a run only if its design document has a proper id. -/
theorem proper_of_materializer? {query : Query} {run : Materializer}
    (started : query.materializer? = .ok run) :
    checkDesignDocument query.plan.container = .ok () := by
  cases checked : checkDesignDocument query.plan.container with
  | error fault =>
    rw [materializer?_of_improper checked] at started
    cases started
  | ok _ => rfl

/-- A query adds nothing to its run but the event that ends it. -/
theorem fetch_of_materializer? {σ : Type} {query : Query} {run : Materializer}
    {answer : Behaviour σ} {store : σ} (started : query.materializer? = .ok run) :
    query.fetch answer store = { run.complete answer store with
      events := (run.complete answer store).events ++
        [closing (run.complete answer store).outcome] } := by
  simp only [fetch, started]

/-- A run that a query starts is for the view and the design document of the query. -/
theorem of_materializer? {query : Query} {run : Materializer}
    (started : query.materializer? = .ok run) :
    run.design = query.plan.container ∧ run.budget = query.retryBudget.toNat ∧
      run.request.index = query.viewName ∧
      run.request.path = viewPath query.plan.container query.viewName := by
  -- A run is started if the id is proper and the request can be built.
  cases checked : checkDesignDocument query.plan.container with
  | error fault =>
    rw [materializer?_of_improper checked] at started
    cases started
  | ok _ =>
    cases built : query.request? with
    | error rejection =>
      rw [materializer?_of_rejected checked built] at started
      cases started
    | ok request =>
      rw [materializer?_of_request checked built] at started
      cases started
      exact ⟨rfl, rfl, index_of_request? built, (of_request? built).1⟩

end DocView.Query
