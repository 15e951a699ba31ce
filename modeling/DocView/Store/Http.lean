import DocView.Config

/-!
A document store reached over HTTP: the request that each call makes, and what its response means.
The network itself is a parameter.
-/

namespace DocView

namespace Base64

/-! The base-64 form of bytes: three bytes to four digits, padded at the end. -/

/-- The digit of a value below sixty-four. -/
def digit (value : Nat) : Char :=
  if value < 26 then Char.ofNat ('A'.toNat + value)
  else if value < 52 then Char.ofNat ('a'.toNat + (value - 26))
  else if value < 62 then Char.ofNat ('0'.toNat + (value - 52))
  else if value = 62 then '+'
  else '/'

/-- The digits of bytes. -/
def encode : List UInt8 → List Char
  | [] => []
  -- One byte fills two digits, the second of them with zeros.
  | [first] =>
    let bits := first.toNat * 16
    [digit (bits / 64), digit (bits % 64), '=', '=']
  -- Two bytes fill three digits, the third of them with zeros.
  | [first, second] =>
    let bits := (first.toNat * 256 + second.toNat) * 4
    [digit (bits / 4096), digit (bits / 64 % 64), digit (bits % 64), '=']
  | first :: second :: third :: rest =>
    let bits := (first.toNat * 256 + second.toNat) * 256 + third.toNat
    digit (bits / 262144) :: digit (bits / 4096 % 64) :: digit (bits / 64 % 64)
      :: digit (bits % 64) :: encode rest

end Base64

/-- What a request does at its address. -/
inductive HttpMethod where
  /-- Reads. -/
  | get
  /-- Writes. -/
  | put
deriving DecidableEq

/-- The word for a method. -/
def HttpMethod.word : HttpMethod → String
  | get => "GET"
  | put => "PUT"

/-- A request as it is sent. -/
structure HttpRequest where
  /-- What the request does. -/
  method : HttpMethod
  /-- The whole address. -/
  url : String
  /-- Who asks. -/
  authorization : Option String
  /-- The kind of what is sent along. -/
  contentType : Option String
  /-- The text that is sent along. -/
  body : String
deriving DecidableEq

/-- A response as it arrives. -/
structure HttpResponse where
  /-- The status. -/
  status : Nat
  /-- The text that came along. -/
  text : String
deriving DecidableEq

/-- What the network makes of a request: a response, or the reason that there is none. -/
abbrev Network (τ : Type) := τ → HttpRequest → Except String HttpResponse × τ

/-- A store reached over HTTP, of a configuration that was checked. -/
structure HttpStore where
  /-- How the store is reached. -/
  config : StoreConfig
deriving DecidableEq

namespace HttpStore

/-- Sets up a store, unless its configuration is unusable. -/
def ofConfig? (config : StoreConfig) : Except StoreError HttpStore :=
  match config.check with
  | .ok () => .ok ⟨config⟩
  | .error fault => .error fault.error

/-- The address of the database. -/
def databaseUrl (store : HttpStore) : String := store.config.databaseUrl

/-- The coded id of a document; the slash of a design document's marker is kept. -/
def codedId (id : String) : String :=
  let marker := designMarker.toList
  if marker.isPrefixOf id.toList then
    designMarker ++ Percent.encode (String.ofList (id.toList.drop marker.length))
  else Percent.encode id

/-- The address of a document. -/
def documentUrl (store : HttpStore) (id : String) : String :=
  store.databaseUrl ++ "/" ++ codedId id

/-- The address of a query of a view; without a query string there is no question mark. -/
def viewUrl (store : HttpStore) (path query : String) : String :=
  let address := store.databaseUrl ++ "/" ++ path
  if query = "" then address else address ++ "?" ++ query

/-- The header that says who asks, if anyone does. -/
def authorization (store : HttpStore) : Option String :=
  store.config.username.map fun username =>
    let credentials := username ++ ":" ++ store.config.password.getD ""
    "Basic " ++ String.ofList (Base64.encode (Utf8.encode credentials.toList))

/-- The request that a call makes. -/
def request (store : HttpStore) : StoreCall → HttpRequest
  | .queryView path query =>
    { method := .get, url := store.viewUrl path query, authorization := store.authorization
      contentType := none, body := "" }
  | .getDocument id =>
    { method := .get, url := store.documentUrl id, authorization := store.authorization
      contentType := none, body := "" }
  | .putDocument id body =>
    { method := .put, url := store.documentUrl id, authorization := store.authorization
      contentType := some "application/json", body := body.text }

/-- What a response means: blank text is null, and only a failure may bring what is not JSON. -/
def readResponse (response : HttpResponse) : Answer :=
  if isBlankText response.text then .ok ⟨response.status, .null⟩
  else
    match Json.parse response.text with
    | .ok body => .ok ⟨response.status, body⟩
    | .error error =>
      -- A failure is told by its status, whatever comes along with it.
      let reply : Reply := ⟨response.status, .string response.text⟩
      if reply.isSuccess then .error (.undecodable error) else .ok reply

/-- How the store behaves over a network. -/
def answer {τ : Type} (store : HttpStore) (network : Network τ) : Behaviour τ := fun state call =>
  match network state (store.request call) with
  | (.ok response, state) => (readResponse response, state)
  | (.error reason, state) => (.error (.transport reason), state)

/-- The store as the log shows it. -/
def summary (store : HttpStore) : String :=
  s!"HttpStore \x7b database_url: {quote store.databaseUrl}, .. \x7d"

end HttpStore

end DocView
