import DocView.DesignDocument
import DocView.Store
import DocView.ViewPath

/-!
Where views are kept and how a store is reached, and how the texts of such settings are read. Some
must not be blank, and some are whole numbers of at most 64 bits with an optional plus sign.
-/

namespace DocView

/-- Whether a character is white space. -/
def isBlank (char : Char) : Bool :=
  let code := char.toNat
  (0x09 ≤ code && code ≤ 0x0d) || code = 0x20 || code = 0x85 || code = 0xa0 || code = 0x1680
    || (0x2000 ≤ code && code ≤ 0x200a) || code = 0x2028 || code = 0x2029 || code = 0x202f
    || code = 0x205f || code = 0x3000

/-- Whether a text holds nothing but white space. -/
def isBlankText (text : String) : Bool := text.toList.all isBlank

/-- The value of decimal digits, unless there are none or one is no digit. -/
def digitsValue? (chars : List Char) : Option Nat :=
  if chars ≠ [] ∧ chars.all Char.isDigit then
    some (Nat.ofDigitChars 10 chars 0)
  else none

/-- The number a text writes out, if it fits 64 bits. -/
def numeral? (text : String) : Option UInt64 :=
  -- A sign other than plus is no digit, so it is refused with the digits.
  let digits := match text.toList with
    | '+' :: rest => rest
    | chars => chars
  match digitsValue? digits with
  | some value => if value < 2 ^ 64 then some (.ofNat value) else none
  | none => none

/-- The number of decimal digits is read back, if it fits 64 bits. -/
theorem numeral?_toDigits {value : Nat} (fits : value < 2 ^ 64) :
    numeral? (String.ofList (Nat.toDigits 10 value)) = some (.ofNat value) := by
  -- The text consists of digits alone, and their value is the number.
  have digit : ∀ char ∈ Nat.toDigits 10 value, char.isDigit = true := fun char member =>
    Nat.isDigit_of_mem_toDigits (by decide) (by decide) member
  have back : Nat.ofDigitChars 10 (Nat.toDigits 10 value) 0 = value :=
    Nat.ofDigitChars_toDigits (by decide) (by decide)
  have read : digitsValue? (Nat.toDigits 10 value) = some value := by
    have all : (Nat.toDigits 10 value).all Char.isDigit = true := List.all_eq_true.2 digit
    rw [digitsValue?, if_pos ⟨Nat.toDigits_ne_nil, all⟩, back]
  unfold numeral?
  rw [String.toList_ofList]
  split
  · -- A plus sign is no digit.
    rename_i rest plus
    rw [plus] at digit
    exact absurd (digit '+' List.mem_cons_self) (by decide)
  · simp only [read, fits, if_true]

/-- A number of 64 bits is read back from its text. -/
theorem numeral?_toString (limit : UInt64) : numeral? (toString limit.toNat) = some limit := by
  -- The text of a number consists of its decimal digits.
  rw [Nat.toString_eq_ofList_toDigits, numeral?_toDigits limit.toNat_lt, UInt64.ofNat_toNat]

/-- What makes a configuration unusable. -/
inductive ConfigFault where
  /-- The id of the design document names none. -/
  | badDesignDocument (id : String)
  /-- The address of the store is blank. -/
  | emptyBaseUrl
  /-- The name of the database is blank. -/
  | emptyDatabase
  /-- A variable of the environment that has to be set is not. -/
  | notSet (name : String)
  /-- A variable of the environment holds no number. -/
  | notNumeric (name text : String)
deriving DecidableEq

/-- The wording of a fault. -/
def ConfigFault.reason : ConfigFault → String
  | badDesignDocument id =>
    s!"design document id must look like \"{designMarker}<name>\", got {quote id}"
  | emptyBaseUrl => "base_url is empty"
  | emptyDatabase => "database is empty"
  | notSet name => s!"{name} is not set"
  | notNumeric name text => s!"{name} is not a number: {quote text}"

/-- The error that a fault amounts to. -/
def ConfigFault.error (fault : ConfigFault) : StoreError := .invalidConfig fault.reason

/-- Refuses an id that is not the marker of design documents followed by a name. -/
def checkDesignDocument (id : String) : Except ConfigFault Unit :=
  let marker := designMarker.toList
  if marker.isPrefixOf id.toList && marker.length != id.toList.length then .ok ()
  else .error (.badDesignDocument id)

/-- Where views are kept and how often their installation is tried. -/
structure ViewConfig where
  /-- The design document that receives the views. -/
  designDocument : String := "_design/example"
  /-- How often a write is tried when it meets other writers. -/
  retryBudget : UInt32 := 5
  /-- Whether rows bring their documents unless a query says otherwise. -/
  includeDocs : Bool := false
deriving DecidableEq

namespace ViewConfig

/-- The configuration of the members that are there, with defaults for the others. -/
def complete (designDocument : Option String) (retryBudget : Option UInt32)
    (includeDocs : Option Bool) : ViewConfig :=
  let standard : ViewConfig := {}
  ⟨designDocument.getD standard.designDocument, retryBudget.getD standard.retryBudget,
    includeDocs.getD standard.includeDocs⟩

/-- Reads a configuration from an object or from a list of its members. -/
def ofJson? : Decoder ViewConfig
  | .object members => do
    let designDocument ← members.decode? "design_document" .text
    let includeDocs ← members.decode? "include_docs" .truth
    let retryBudget ← members.decode? "retry_budget" .word32
    return complete designDocument retryBudget includeDocs
  | .array items => do
    let designDocument ← decodeAt? items 0 .text
    let retryBudget ← decodeAt? items 1 .word32
    let includeDocs ← decodeAt? items 2 .truth
    refuseMore items 3
    return complete designDocument retryBudget includeDocs
  | found => .error (.wrongType found "struct ViewConfig")

/-- The object of a configuration. -/
def toJson (config : ViewConfig) : Json :=
  .ofMembers [("design_document", .string config.designDocument),
    ("retry_budget", .ofUInt64 config.retryBudget.toUInt64),
    ("include_docs", .bool config.includeDocs)]

/-- Refuses a configuration whose design document has no proper id. -/
def check (config : ViewConfig) : Except ConfigFault Unit :=
  checkDesignDocument config.designDocument

end ViewConfig

/-- How many seconds a call may take unless it is said otherwise. -/
def standardTimeout : UInt64 := 30

/-- How a store is reached. -/
structure StoreConfig where
  /-- The address of the store. -/
  baseUrl : String
  /-- The name of the database. -/
  database : String
  /-- Who asks. -/
  username : Option String := none
  /-- The secret of the one who asks. -/
  password : Option String := none
  /-- How many seconds a call may take. -/
  timeoutSecs : UInt64 := standardTimeout
deriving DecidableEq

namespace StoreConfig

/-- Reads a configuration from an object or from a list of its members. -/
def ofJson? : Decoder StoreConfig
  | .object members => do
    let baseUrl ← members.decode? "base_url" .text
    let database ← members.decode? "database" .text
    let password ← members.decode? "password" (Decoder.optional .text)
    let timeoutSecs ← members.decode? "timeout_secs" .word64
    let username ← members.decode? "username" (Decoder.optional .text)
    let baseUrl ← required "base_url" baseUrl
    let database ← required "database" database
    return ⟨baseUrl, database, username.join, password.join, timeoutSecs.getD standardTimeout⟩
  | .array items => do
    let wanted := recordOf "StoreConfig" 5
    let baseUrl ← decodeAt? items 0 .text
    let baseUrl ← requiredAt 0 wanted baseUrl
    let database ← decodeAt? items 1 .text
    let database ← requiredAt 1 wanted database
    let username ← decodeAt? items 2 (Decoder.optional .text)
    let password ← decodeAt? items 3 (Decoder.optional .text)
    let timeoutSecs ← decodeAt? items 4 .word64
    refuseMore items 5
    return ⟨baseUrl, database, username.join, password.join, timeoutSecs.getD standardTimeout⟩
  | found => .error (.wrongType found "struct StoreConfig")

/-- A text, or null for none. -/
def textOrNull : Option String → Json
  | some text => .string text
  | none => .null

/-- The object of a configuration. -/
def toJson (config : StoreConfig) : Json :=
  .ofMembers [("base_url", .string config.baseUrl), ("database", .string config.database),
    ("username", textOrNull config.username), ("password", textOrNull config.password),
    ("timeout_secs", .ofUInt64 config.timeoutSecs)]

/-- Refuses a configuration without an address or a database. -/
def check (config : StoreConfig) : Except ConfigFault Unit :=
  if isBlankText config.baseUrl then .error .emptyBaseUrl
  else if isBlankText config.database then .error .emptyDatabase
  else .ok ()

/-- The same configuration with the one who asks and their secret. -/
def withCredentials (config : StoreConfig) (username password : String) : StoreConfig :=
  { config with username := some username, password := some password }

/-- The address of the database, without a slash at its end. -/
def databaseUrl (config : StoreConfig) : String :=
  dropTrailing '/' config.baseUrl ++ "/" ++ Percent.encode config.database

/-- A configuration as the log shows it, without the secret. -/
def summary (config : StoreConfig) : String :=
  let username := match config.username with
    | some name => s!"Some({quote name})"
    | none => "None"
  s!"StoreConfig \x7b base_url: {quote config.baseUrl}, database: {quote config.database}, "
    ++ s!"username: {username}, timeout_secs: {config.timeoutSecs.toNat}, .. \x7d"

/-- The variable that holds the address of the store. -/
def urlVariable : String := "VIEWQUERY_URL"

/-- The variable that holds the name of the database. -/
def databaseVariable : String := "VIEWQUERY_DATABASE"

/-- The variable that holds the one who asks. -/
def usernameVariable : String := "VIEWQUERY_USERNAME"

/-- The variable that holds the secret. -/
def passwordVariable : String := "VIEWQUERY_PASSWORD"

/-- The variable that holds the seconds a call may take. -/
def timeoutVariable : String := "VIEWQUERY_TIMEOUT_SECS"

/-- The value of a variable that has to be set. -/
def demand (environment : String → Option String) (name : String) : Except ConfigFault String :=
  match environment name with
  | some value => .ok value
  | none => .error (.notSet name)

/-- The seconds a call may take, as the environment says. -/
def timeoutOf (environment : String → Option String) : Except ConfigFault UInt64 :=
  match environment timeoutVariable with
  | none => .ok standardTimeout
  | some text =>
    match numeral? text with
    | some seconds => .ok seconds
    | none => .error (.notNumeric timeoutVariable text)

/-- Reads a configuration from the variables of an environment. -/
def ofEnvironment? (environment : String → Option String) : Except ConfigFault StoreConfig := do
  let baseUrl ← demand environment urlVariable
  let database ← demand environment databaseVariable
  let timeoutSecs ← timeoutOf environment
  let config : StoreConfig :=
    ⟨baseUrl, database, environment usernameVariable, environment passwordVariable, timeoutSecs⟩
  config.check
  return config

end StoreConfig

end DocView
