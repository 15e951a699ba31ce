import DocView.Clause.Reading
import DocView.Config
import DocView.Explanation
import DocView.Materializer

/-!
A query built clause by clause. A clause that may not follow the ones before it is rejected when it
is added, so every query that was built can be sent.
-/

namespace DocView

/-- A query of the documents of one type. -/
structure Query where
  /-- What is asked for. -/
  plan : QueryPlan
  /-- How often the view is tried to be installed. -/
  retryBudget : UInt32
deriving DecidableEq

namespace Query

/-- Begins a query of all documents of a type. -/
def ofType? (documentType : String) (config : ViewConfig) : Except Rejection Query :=
  if documentType = "" then .error .missingType
  else
    .ok {
      plan := {
        documentType
        container := config.designDocument
        includeDocs := config.includeDocs }
      retryBudget := config.retryBudget }

/-- Adds a clause, if it may follow those before it. -/
def addClause (query : Query) (clause : Clause) : Except Rejection Query :=
  let plan := { query.plan with clauses := query.plan.clauses ++ [clause] }
  -- The clauses are compiled anew each time, so what is built always compiles.
  match Scan.ofClauses? plan.clauses with
  | .ok _ => .ok { query with plan }
  | .error rejection => .error rejection

/-- Adds a condition such as `age >=` on a value. -/
def filter (query : Query) (condition : String) (value : Json) : Except Rejection Query := do
  query.addClause (← Clause.ofCondition? condition value)

/-- Adds an order such as `-age`. -/
def order (query : Query) (instruction : String) : Except Rejection Query := do
  query.addClause (← Clause.ofInstruction? instruction)

/-- The same query, with or without the documents of the rows. -/
def withDocuments (query : Query) (includeDocs : Bool) : Query :=
  { query with plan := { query.plan with includeDocs } }

/-- The same query, with or without a limit to the rows. -/
def withLimit (query : Query) (limit : Option UInt64) : Query :=
  { query with plan := { query.plan with limit } }

/-- The name of the view that a query reads. -/
def viewName (query : Query) : String :=
  DocView.viewName query.plan.documentType query.plan.fields

/-- The scan that a query asks for. -/
def scan? (query : Query) : Except Rejection Scan := query.plan.scan?

/-- The address that a query asks. -/
def url? (query : Query) : Except Rejection String :=
  query.scan?.map (viewUrl query.plan.container query.viewName)

/-- What a query asks for, told without running it. -/
def explain (query : Query) : Explanation := .ofPlan query.plan query.viewName

/-- What the view of a query indexes. -/
def shape (query : Query) : ViewShape :=
  ⟨query.plan.documentType, query.plan.fields, query.plan.includeDocs⟩

/-- The request that a query makes of a store. -/
def request? (query : Query) : Except Rejection ViewRequest :=
  query.scan?.map fun scan =>
    { index := query.viewName
      path := viewPath query.plan.container query.viewName
      query := scan.queryString
      shape := query.shape }

/-- The run of a query, unless its design document has no proper id. -/
def materializer? (query : Query) : Except QueryError Materializer := do
  (checkDesignDocument query.plan.container).mapError fun fault => .store fault.error
  let request ← query.request?.mapError .rejected
  return ⟨query.plan.container, query.retryBudget.toNat, request⟩

/-- The event that ends a query. -/
def closing : Outcome → Event
  | .ok _ => .queryComplete
  | .error _ => .queryFailed

/-- Runs a query on a store, and installs its view if the store lacks it. -/
def fetch {σ : Type} (query : Query) (answer : Behaviour σ) (store : σ) : Materializer.Record σ :=
  match query.materializer? with
  | .error error => ⟨[], [], .error error, store⟩
  | .ok run =>
    let record := run.complete answer store
    { record with events := record.events ++ [closing record.outcome] }

/-- Runs a query on a store, and hands the outcome on. -/
def execute {σ α : Type} (query : Query) (answer : Behaviour σ) (store : σ)
    (receive : Outcome → α) : α × Materializer.Record σ :=
  let record := query.fetch answer store
  (receive record.outcome, record)

end Query

end DocView
