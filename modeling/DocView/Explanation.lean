import DocView.ViewPath

/-! What a query asks for, told without running it. -/

namespace DocView

/-- What a query description holds before it is compiled. -/
structure QueryPlan where
  /-- The type of the documents. -/
  documentType : String
  /-- The design document that holds the view. -/
  container : String
  /-- Whether each row brings its document. -/
  includeDocs : Bool := false
  /-- The most rows to read. -/
  limit : Option UInt64 := none
  /-- The clauses in the order they were added. -/
  clauses : List Clause := []
deriving DecidableEq

namespace QueryPlan

/-- The fields of the clauses, in their order. -/
def fields (plan : QueryPlan) : List String := plan.clauses.map Clause.field

/-- The scan that a plan asks for. -/
def scan? (plan : QueryPlan) : Except Rejection Scan :=
  (Scan.ofClauses? plan.clauses).map fun scan =>
    { scan with includeDocs := plan.includeDocs, limit := plan.limit }

end QueryPlan

/-- What becomes of a plan. -/
inductive Verdict where
  /-- The plan is sent as a scan of a view. -/
  | accepted (path : String) (scan : Scan)
  /-- The plan is not sent. -/
  | rejected (rejection : Rejection)
deriving DecidableEq

/-- What a query asks for and what becomes of it. -/
structure Explanation where
  /-- The name of the view. -/
  viewName : String
  /-- The texts of the clauses. -/
  clauses : List String
  /-- What becomes of the query. -/
  verdict : Verdict
deriving DecidableEq

namespace Explanation

/-- Explains a plan that reads the view of a name. -/
def ofPlan (plan : QueryPlan) (viewName : String) : Explanation :=
  { viewName
    clauses := plan.clauses.map Clause.text
    verdict := match plan.scan? with
      | .ok scan => .accepted (viewPath plan.container viewName) scan
      | .error rejection => .rejected rejection }

/-- Whether the query is sent. -/
def isAccepted (explanation : Explanation) : Bool :=
  match explanation.verdict with
  | .accepted .. => true
  | .rejected _ => false

/-- The path of the view, if the query is sent. -/
def path? (explanation : Explanation) : Option String :=
  match explanation.verdict with
  | .accepted path _ => some path
  | .rejected _ => none

/-- The scan, if the query is sent. -/
def scan? (explanation : Explanation) : Option Scan :=
  match explanation.verdict with
  | .accepted _ scan => some scan
  | .rejected _ => none

/-- The rejection, if the query is not sent. -/
def rejection? (explanation : Explanation) : Option Rejection :=
  match explanation.verdict with
  | .accepted .. => none
  | .rejected rejection => some rejection

/-- The text of the one key read. -/
def keyText? (explanation : Explanation) : Option String :=
  explanation.scan?.bind fun scan => scan.key.map keyText

/-- The text of the key started from. -/
def startKeyText? (explanation : Explanation) : Option String :=
  explanation.scan?.bind fun scan => scan.startKey.map keyText

/-- The text of the key ended with. -/
def endKeyText? (explanation : Explanation) : Option String :=
  explanation.scan?.bind fun scan => scan.endKey.map keyText

/-- Whether the view is read from its end. -/
def isDescending (explanation : Explanation) : Bool :=
  (explanation.scan?.map Scan.descending).getD false

/-- The most rows to read. -/
def limit? (explanation : Explanation) : Option UInt64 :=
  explanation.scan?.bind Scan.limit

/-- The query string, if the query is sent. -/
def queryString? (explanation : Explanation) : Option String :=
  explanation.scan?.map Scan.queryString

/-- The lines that tell of a scan. -/
def scanLines (path : String) (scan : Scan) : List String :=
  [s!"Path: {path}"]
    ++ (scan.key.map fun key => s!"Key: {keyText key}").toList
    ++ (match scan.startKey, scan.endKey with
        | some start, some stop => [s!"Range: {keyText start} .. {keyText stop}"]
        | _, _ => [])
    ++ ["Direction: " ++ if scan.descending then "descending" else "ascending"]
    ++ (scan.limit.map fun limit => s!"Limit: {limit.toNat}").toList
    ++ [s!"Query: {scan.queryString}"]

/-- The lines of an explanation. -/
def lines (explanation : Explanation) : List String :=
  ["=== EXPLAIN VIEW QUERY ===", s!"View: {explanation.viewName}"]
    ++ (if explanation.clauses.isEmpty then []
        else "Clauses:" :: explanation.clauses.map ("  - " ++ ·))
    ++ match explanation.verdict with
        | .accepted path scan => "Status: ACCEPTED" :: scanLines path scan
        | .rejected rejection =>
          ["Status: REJECTED", s!"Error Code: {rejection.code}", s!"Reason: {rejection.reason}"]

/-- The text of an explanation, each line ended. -/
def text (explanation : Explanation) : String :=
  String.join (explanation.lines.map (· ++ "\n"))

end Explanation

end DocView
