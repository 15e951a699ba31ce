/-! What happens to a query while it runs. -/

namespace DocView

/-- How much attention an event calls for. -/
inductive Level where
  /-- Of interest to those who look for it. -/
  | debug
  /-- Worth seeing. -/
  | info
  /-- A failure. -/
  | warn
deriving DecidableEq

/-- The word for a level. -/
def Level.word : Level → String
  | debug => "DEBUG"
  | info => "INFO"
  | warn => "WARN"

/-- A step in the life of a query. -/
inductive Event where
  /-- The view is asked. -/
  | viewQuery
  /-- The view does not exist yet. -/
  | viewMissing
  /-- Rows are returned. -/
  | queryComplete
  /-- The query ends in an error. -/
  | queryFailed
  /-- A definition is made for the view. -/
  | indexDefined
  /-- A write of the design document lost against another writer. -/
  | indexInstallConflict
  /-- The design document is written. -/
  | indexInstalled
  /-- The design document holds the definition already. -/
  | indexAlreadyPresent
  /-- No attempt to write the design document is left. -/
  | indexInstallExhausted
  /-- The view answers after it was installed. -/
  | viewReconciled
deriving DecidableEq

namespace Event

/-- The stable name of an event. -/
def name : Event → String
  | viewQuery => "VIEW_QUERY"
  | viewMissing => "VIEW_MISSING"
  | queryComplete => "QUERY_COMPLETE"
  | queryFailed => "QUERY_FAILED"
  | indexDefined => "INDEX_DEFINED"
  | indexInstallConflict => "INDEX_INSTALL_CONFLICT"
  | indexInstalled => "INDEX_INSTALLED"
  | indexAlreadyPresent => "INDEX_ALREADY_PRESENT"
  | indexInstallExhausted => "INDEX_INSTALL_EXHAUSTED"
  | viewReconciled => "VIEW_RECONCILED"

/-- Whether an event ends a query without success. -/
def isFailure : Event → Bool
  | queryFailed | indexInstallExhausted => true
  | _ => false

/-- Whether an event is worth seeing without being looked for. -/
def isNotable : Event → Bool
  | viewMissing | indexInstalled | indexInstallConflict | viewReconciled => true
  | _ => false

/-- The level at which an event is recorded. -/
def level (event : Event) : Level :=
  if event.isFailure then .warn else if event.isNotable then .info else .debug

/-- An event as the log shows it. -/
def text (event : Event) : String := s!"{event.level.word} {event.name}"

end Event

/-- The listener of recorded events, of which a program has at most one. -/
inductive Listener where
  /-- Nobody listens yet. -/
  | absent
  /-- Somebody listens. -/
  | installed
deriving DecidableEq

/-- Installs a listener, and tells whether there was none before. -/
def Listener.install : Listener → Bool × Listener
  | absent => (true, installed)
  | installed => (false, installed)

end DocView
