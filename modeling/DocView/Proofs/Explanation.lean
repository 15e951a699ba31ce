import DocView.Proofs.ClauseOrder
import DocView.Proofs.Materializer.Discipline
import DocView.Proofs.QueryString

/-!
An explanation tells what is sent. The address of a query, its explanation and its run are put
together apart from each other, and show one path and one query string.
-/

namespace DocView

namespace Explanation

variable {explanation : Explanation} {path : String} {scan : Scan}
  (accepted : explanation.verdict = .accepted path scan)

include accepted

/-- An explanation of what is sent says so, and gives no reason against it. -/
theorem isAccepted_of_accepted :
    explanation.isAccepted = true ∧ explanation.rejection? = none := by
  simp only [isAccepted, rejection?, accepted, and_self]

/-- An explanation of what is sent shows its path. -/
theorem path?_of_accepted : explanation.path? = some path := by
  simp only [path?, accepted]

/-- An explanation of what is sent shows its scan. -/
theorem scan?_of_accepted : explanation.scan? = some scan := by
  simp only [scan?, accepted]

/-- An explanation of what is sent shows its query string. -/
theorem queryString?_of_accepted : explanation.queryString? = some scan.queryString := by
  rw [queryString?, scan?_of_accepted accepted]
  rfl

end Explanation

namespace Query

variable {query : Query} {scan : Scan}

/-- A query that asks for a scan is explained by the path of its view and that scan. -/
theorem verdict_of_scan? (scanned : query.scan? = .ok scan) :
    query.explain.verdict = .accepted (viewPath query.plan.container query.viewName) scan := by
  have planned : query.plan.scan? = .ok scan := scanned
  simp only [explain, Explanation.ofPlan, planned]

/-- The address of a query that asks for a scan. -/
theorem url?_of_scan? (scanned : query.scan? = .ok scan) :
    query.url? = .ok (viewPath query.plan.container query.viewName ++ "?" ++ scan.queryString) := by
  rw [url?, scanned]
  rfl

/-- With a proper design document, a query starts a run that asks for its view by this address. -/
theorem exists_materializer?_of_scan? (scanned : query.scan? = .ok scan)
    (proper : checkDesignDocument query.plan.container = .ok ()) :
    ∃ run, query.materializer? = .ok run ∧ run.viewQuery =
      .queryView (viewPath query.plan.container query.viewName) scan.queryString := by
  refine ⟨_, materializer?_of_request proper (request?_of_scan? scanned), ?_⟩
  simp only [Materializer.viewQuery]

section Sent

variable {σ : Type} (answer : Behaviour σ) (store : σ) (scanned : query.scan? = .ok scan)

include scanned

/-- Whatever a store answers, a query asks it for no view but by one path and one query string. -/
theorem queryView_of_mem_fetch :
    ∀ exchange ∈ (query.fetch answer store).exchanges, exchange.1.isQuery = true →
      exchange.1 = .queryView (viewPath query.plan.container query.viewName) scan.queryString := by
  -- The run is made from the scan, and all of its view queries are the one it was made with.
  cases checked : checkDesignDocument query.plan.container with
  | error fault =>
    -- Without a proper id nothing is asked at all.
    rw [fetch, materializer?_of_improper checked]
    simp
  | ok _ =>
    obtain ⟨run, started, asks⟩ := exists_materializer?_of_scan? scanned checked
    rw [fetch_of_materializer? started, ← asks]
    exact (run.complete_session answer store).query_eq

/-- A query with a proper design document begins with them. -/
theorem exists_fetch_eq_cons (proper : checkDesignDocument query.plan.container = .ok ()) :
    ∃ first later, (query.fetch answer store).exchanges =
      (.queryView (viewPath query.plan.container query.viewName) scan.queryString, first) ::
        later := by
  obtain ⟨run, started, asks⟩ := exists_materializer?_of_scan? scanned proper
  obtain ⟨first, later, exchanges, _⟩ := (run.complete_session answer store).disciplined.starts
  rw [fetch_of_materializer? started, ← asks]
  exact ⟨first, later, exchanges⟩

end Sent

/-- Whether the explanation of a query tells a path and a query string, and they are what is sent. -/
structure Tells (query : Query) (path text : String) : Prop where
  /-- The explanation says that the query is sent, and gives no reason why it is not. -/
  accepted : query.explain.isAccepted = true ∧ query.explain.rejection? = none
  /-- It shows the path and the query string. -/
  shown : query.explain.path? = some path ∧ query.explain.queryString? = some text
  /-- The address of the query is made of these two. -/
  url : query.url? = .ok (path ++ "?" ++ text)
  /-- Every query of a view is by this path and this query string, whatever the store answers. -/
  sent : ∀ {σ : Type} (answer : Behaviour σ) (store : σ),
    ∀ exchange ∈ (query.fetch answer store).exchanges, exchange.1.isQuery = true →
      exchange.1 = .queryView path text
  /-- With a proper design document there is such a query, and it comes first. -/
  begins : checkDesignDocument query.plan.container = .ok () →
    ∀ {σ : Type} (answer : Behaviour σ) (store : σ), ∃ first later,
      (query.fetch answer store).exchanges = (.queryView path text, first) :: later
  /-- There is one text for each clause, in the order of the clauses. -/
  clauses : query.explain.clauses = query.plan.clauses.map Clause.text
  /-- The parameters of the query string are what the explanation shows, and absent where it does. -/
  parameters : ∃ parameters, QueryString.parse text = .ok parameters ∧
    QueryString.valuesOf "key" parameters = query.explain.keyText?.toList ∧
    QueryString.valuesOf "startkey" parameters = query.explain.startKeyText?.toList ∧
    QueryString.valuesOf "endkey" parameters = query.explain.endKeyText?.toList ∧
    QueryString.valuesOf "limit" parameters =
      (query.explain.limit?.map fun limit => toString limit.toNat).toList ∧
    QueryString.valuesOf "descending" parameters = [Json.truthText query.explain.isDescending]

/--
The explanation of a query that was built tells what is sent.

A query that was built compiles, so it is explained as one that is sent. Its path and its query
string are those of its address and of every query of a view that it makes of a store, the first one
and the one after an installation. Read back from the query string, the keys, the limit and the
direction are those that the explanation shows.
-/
theorem explain_tells (built : query.Built) : ∃ path text, query.Tells path text := by
  -- A built query has one scan, and the explanation, the url and the run are all made from it.
  obtain ⟨scan, scanned⟩ := built.scan?
  have verdict := verdict_of_scan? scanned
  have asked := Explanation.scan?_of_accepted verdict
  have some : scan.parameters ≠ [] := by simp [Scan.parameters]
  refine ⟨viewPath query.plan.container query.viewName, scan.queryString,
    Explanation.isAccepted_of_accepted verdict,
    ⟨Explanation.path?_of_accepted verdict, Explanation.queryString?_of_accepted verdict⟩,
    url?_of_scan? scanned, ?_, ?_, rfl,
    scan.parameters, QueryString.parse_render some scan.isPlain_of_mem_parameters, ?_⟩
  · intro σ answer store
    exact queryView_of_mem_fetch answer store scanned
  · intro proper σ answer store
    exact exists_fetch_eq_cons answer store scanned proper
  · simp only [Explanation.keyText?, Explanation.startKeyText?, Explanation.endKeyText?,
      Explanation.limit?, Explanation.isDescending, asked]
    exact scan.valuesOf_parameters

/-- A query of pages, by clauses and up to a limit. -/
def pagesBy (clauses : List Clause) (limit : Option UInt64) : Query where
  plan := { documentType := "Page", container := "_design/example/", limit, clauses }
  retryBudget := 5

/-- A query of the latest pages of one tag, up to three of them. -/
def taggedPages : Query :=
  pagesBy [.equality "a&b" (.string "x=y"), .order "c" .descending] (some 3)

/-- What separates parameters may stand in a field and in a value, and the limit may come first. -/
theorem explain_tells_tagged :
    taggedPages.Built ∧ taggedPages.Tells "_design/example/_view/QC-Page-a%26b-c"
      ("reduce=false&include_docs=false&limit=3&startkey=%5B%22x%3Dy%22%2C%7B%7D%5D" ++
        "&endkey=%5B%22x%3Dy%22%2Cnull%5D&descending=true") := by
  -- Each step that builds the query is evaluated, and the texts are those that the explanation
  -- shows.
  have begins : ofType? "Page" { designDocument := "_design/example/" } = .ok (pagesBy [] none) := by
    decide +kernel
  have filters : (pagesBy [] (some 3)).filter "a&b ==" (.string "x=y") =
      .ok (pagesBy [.equality "a&b" (.string "x=y")] (some 3)) := by
    decide +kernel
  have orders : (pagesBy [.equality "a&b" (.string "x=y")] (some 3)).order "-c" =
      .ok taggedPages := by
    decide +kernel
  have built : taggedPages.Built :=
    .ordered (.filtered (.limited (.begun begins) (some 3)) filters) orders
  obtain ⟨path, text, tells⟩ := explain_tells built
  have path_eq : taggedPages.explain.path? = some "_design/example/_view/QC-Page-a%26b-c" := by
    decide +kernel
  have text_eq : taggedPages.explain.queryString? = some
      ("reduce=false&include_docs=false&limit=3&startkey=%5B%22x%3Dy%22%2C%7B%7D%5D" ++
        "&endkey=%5B%22x%3Dy%22%2Cnull%5D&descending=true") := by
    decide +kernel
  obtain rfl := Option.some.inj (tells.shown.1.symm.trans path_eq)
  rw [Option.some.inj (tells.shown.2.symm.trans text_eq)] at tells
  exact ⟨built, tells⟩

end Query

end DocView
