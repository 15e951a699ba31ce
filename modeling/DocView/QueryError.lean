import DocView.Rejection
import DocView.Store

/-! Why running a query brings no rows. -/

namespace DocView

/-- Why a query fails. -/
inductive QueryError where
  /-- The query was rejected before it was sent. -/
  | rejected (rejection : Rejection)
  /-- The view replied with something other than rows or that it is missing. -/
  | queryFailed (url : String) (status : Nat) (body : Json)
  /-- Every attempt to install the view met another writer. -/
  | creationExhausted (index : String) (attempts : Nat)
  /-- The design document could not be read or written. -/
  | installFailed (index : String) (status : Nat) (body : Json)
  /-- The view was installed and still brought no rows. -/
  | postInstallFailed (url : String) (status : Nat) (body : Json)
  /-- The view replied with success, but not with rows. -/
  | invalidResponse (url reason : String)
  /-- A call brought no reply. -/
  | store (error : StoreError)
deriving DecidableEq

namespace QueryError

/-- The stable code of an error. -/
def code : QueryError → String
  | rejected rejection => rejection.code
  | queryFailed .. => "VIEW_QUERY_FAILED"
  | creationExhausted .. => "VIEW_INDEX_CREATION_EXHAUSTED"
  | installFailed .. => "VIEW_INDEX_INSTALL_FAILED"
  | postInstallFailed .. => "VIEW_POST_INSTALL_QUERY_FAILED"
  | invalidResponse .. => "VIEW_INVALID_RESPONSE"
  | store (.invalidConfig _) => "VIEW_STORE_INVALID_CONFIG"
  | store _ => "VIEW_STORE_UNAVAILABLE"

/-- The status that caused an error, if one did. -/
def status? : QueryError → Option Nat
  | queryFailed _ status _ => some status
  | installFailed _ status _ => some status
  | postInstallFailed _ status _ => some status
  | _ => none

/-- The wording of an error. -/
def message : QueryError → String
  | rejected rejection => rejection.message
  | queryFailed url status body =>
    s!"Unknown response during query {url}: status {status}: {body.text}"
  | creationExhausted index attempts =>
    s!"No more tries remain to store view {index} after {attempts} attempts"
  | installFailed index status body =>
    s!"Error when storing view {index}: status {status}: {body.text}"
  | postInstallFailed url status body =>
    s!"Failed to query {url} after creating its view: status {status}: {body.text}"
  | invalidResponse url reason => s!"Malformed view response from {url}: {reason}"
  | store error => error.message

end QueryError

end DocView
