import DocView.Rejection

/-!
The part of a view that a query reads. View keys are compared by kind first, so the open end of a
range is filled with null, which sorts below every value, or with the empty object above them.
-/

namespace DocView

/-- The value that sorts below every other one. -/
def lowest : Json := .null

/-- The value that stands above every bound. -/
def highest : Json := .object ∅

/-- What a view is asked for. -/
structure Scan where
  /-- The one key to read, for a query of equalities only. -/
  key : Option (List Json) := none
  /-- The key to start from. -/
  startKey : Option (List Json) := none
  /-- The key to end with. -/
  endKey : Option (List Json) := none
  /-- Whether the view is read from its end. -/
  descending : Bool := false
  /-- Whether each row brings its document. -/
  includeDocs : Bool := false
  /-- The most rows to read. -/
  limit : Option UInt64 := none
  /-- Whether the rows are reduced to one value. -/
  reduce : Bool := false
deriving DecidableEq

/-- Whether a range of keys is read. -/
def Scan.isRange (scan : Scan) : Bool := scan.startKey.isSome

/-- What the clauses read so far fix of the key. -/
inductive KeyState where
  /-- The first components, one for each equality. -/
  | equal (components : List Json)
  /-- The first components, and the direction of the last order. -/
  | ordered (components : List Json) (direction : Direction)
  /-- Both ends of a range, and the end that was asked for. -/
  | ranged (bound : Bound) (start stop : List Json)
deriving DecidableEq

namespace KeyState

/-- The stage that a state has reached. -/
def stage : KeyState → KeyStage
  | equal _ => .equal
  | ordered .. => .ordered
  | ranged .lower _ _ => .greater
  | ranged .upper _ _ => .less

/-- Takes up one more clause: equalities may be followed by anything, and an order by orders. -/
def extend : KeyState → Clause → Except Rejection KeyState
  | equal components, .equality _ value => .ok (equal (components ++ [value]))
  -- A bound on one side leaves the other end of its component open.
  | equal components, .range _ .lower value =>
    .ok (ranged .lower (components ++ [value]) (components ++ [highest]))
  | equal components, .range _ .upper value =>
    .ok (ranged .upper (components ++ [lowest]) (components ++ [value]))
  -- An order leaves its component open at both ends, and the last order gives the direction.
  | equal components, .order _ direction => .ok (ordered components direction)
  | ordered components _, .order _ direction => .ok (ordered components direction)
  | state, clause => .error (.outOfOrder clause state.stage)

/-- The scan that a state describes. -/
def scan : KeyState → Scan
  -- A query without clauses reads the whole view.
  | equal [] => {}
  | equal components => { key := some components }
  | ordered components .ascending =>
    { startKey := some (components ++ [lowest]), endKey := some (components ++ [highest]) }
  -- Read from its end, a range starts at its greatest key.
  | ordered components .descending =>
    { startKey := some (components ++ [highest]), endKey := some (components ++ [lowest]),
      descending := true }
  | ranged _ start stop => { startKey := some start, endKey := some stop }

end KeyState

/-- The scan of a list of clauses, unless one of them may not follow those before it. -/
def Scan.ofClauses? (clauses : List Clause) : Except Rejection Scan := do
  let state ← clauses.foldlM KeyState.extend (.equal [])
  return state.scan

end DocView
