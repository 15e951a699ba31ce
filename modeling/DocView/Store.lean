import DocView.Json.Parser

/-! What a document store is asked and what it answers. -/

namespace DocView

/-- One call of a store. -/
inductive StoreCall where
  /-- Asks a view, by its path and a query string. -/
  | queryView (path query : String)
  /-- Reads a document. -/
  | getDocument (id : String)
  /-- Writes a whole document, which carries the revision it replaces. -/
  | putDocument (id : String) (body : Json)
deriving DecidableEq

/-- What a store replies; what a status means is for the caller to say. -/
structure Reply where
  /-- The status of the call. -/
  status : Nat
  /-- What the store returns. -/
  body : Json
deriving DecidableEq

/-- Whether a reply tells of success. -/
def Reply.isSuccess (reply : Reply) : Bool := 200 ≤ reply.status && reply.status < 300

/-- Why a call brings no reply. -/
inductive StoreError where
  /-- The store was not reached. -/
  | transport (reason : String)
  /-- The store returned what is not JSON. -/
  | undecodable (error : Json.SyntaxError)
  /-- The store cannot be called as it is set up. -/
  | invalidConfig (reason : String)
deriving DecidableEq

/-- The wording of an error. -/
def StoreError.message : StoreError → String
  | transport reason => s!"Store request failed: {reason}"
  | undecodable error => s!"Failed to decode store response: {error.message}"
  | invalidConfig reason => s!"Invalid store configuration: {reason}"

/-- Outcomes are compared by what they bring. -/
instance decEqExcept {ε α : Type} [DecidableEq ε] [DecidableEq α] : DecidableEq (Except ε α)
  | .ok left, .ok right => decidable_of_iff (left = right) ⟨congrArg _, Except.ok.inj⟩
  | .error left, .error right =>
    decidable_of_iff (left = right) ⟨congrArg _, Except.error.inj⟩
  | .ok _, .error _ => isFalse nofun
  | .error _, .ok _ => isFalse nofun

/-- The outcome of one call. -/
abbrev Answer := Except StoreError Reply

/-- How a store behaves: what it answers to a call in a state, and the state that follows. -/
abbrev Behaviour (σ : Type) := σ → StoreCall → Answer × σ

end DocView
