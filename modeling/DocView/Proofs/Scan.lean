import DocView.Scan

/-!
Every list of clauses that compiles consists of equalities, and either a bound or orders behind them.
The keys of its scan are made of the values of the clauses and of the ends of key order.
-/

namespace DocView

/-- Equalities of fields and values. -/
def equalities (pairs : List (String × Json)) : List Clause :=
  pairs.map fun pair => .equality pair.1 pair.2

/-- Orders by fields in directions. -/
def orders (pairs : List (String × Direction)) : List Clause :=
  pairs.map fun pair => .order pair.1 pair.2

/-- The lists of clauses that lead to a state. -/
inductive Shape : List Clause → KeyState → Prop where
  /-- Equalities fix the first components of the key. -/
  | equal (pairs : List (String × Json)) : Shape (equalities pairs) (.equal (pairs.map Prod.snd))
  /-- Orders behind them leave the next component open, and the last one gives the direction. -/
  | ordered (pairs : List (String × Json)) (before : List (String × Direction)) (field : String)
    (direction : Direction) :
    Shape (equalities pairs ++ orders (before ++ [(field, direction)]))
      (.ordered (pairs.map Prod.snd) direction)
  /-- A lower bound behind them leaves the next component open above. -/
  | lower (pairs : List (String × Json)) (field : String) (value : Json) :
    Shape (equalities pairs ++ [.range field .lower value])
      (.ranged .lower (pairs.map Prod.snd ++ [value]) (pairs.map Prod.snd ++ [highest]))
  /-- An upper bound behind them leaves the next component open below. -/
  | upper (pairs : List (String × Json)) (field : String) (value : Json) :
    Shape (equalities pairs ++ [.range field .upper value])
      (.ranged .upper (pairs.map Prod.snd ++ [lowest]) (pairs.map Prod.snd ++ [value]))

/-- One more clause that is taken up leads from shape to shape. -/
theorem Shape.extend {clauses : List Clause} {state next : KeyState} {clause : Clause}
    (shape : Shape clauses state) (taken : state.extend clause = .ok next) :
    Shape (clauses ++ [clause]) next := by
  -- Only equalities and orders may be followed by more, and each clause has its place behind them.
  cases shape with
  | equal pairs =>
    cases clause with
    | equality field value =>
      cases taken
      have longer := Shape.equal (pairs ++ [(field, value)])
      simpa [equalities] using longer
    | range field bound value =>
      cases bound with
      | lower =>
        cases taken
        exact .lower pairs field value
      | upper =>
        cases taken
        exact .upper pairs field value
    | order field direction =>
      cases taken
      exact .ordered pairs [] field direction
  | ordered pairs before field direction =>
    cases clause with
    | order last final =>
      cases taken
      have longer := Shape.ordered pairs (before ++ [(field, direction)]) last final
      simpa [orders] using longer
    | equality | range => cases taken
  | lower pairs field value => cases clause <;> cases taken
  | upper pairs field value => cases clause <;> cases taken

/-- The clauses that are taken up one after the other lead from shape to shape. -/
theorem Shape.foldlM {clauses later : List Clause} {state final : KeyState}
    (shape : Shape clauses state) (taken : later.foldlM KeyState.extend state = .ok final) :
    Shape (clauses ++ later) final := by
  -- By induction on the clauses that are left, each of which goes behind those taken up before.
  induction later generalizing clauses state with
  | nil =>
    cases taken
    rw [List.append_nil]
    exact shape
  | cons clause later ih =>
    rw [List.foldlM_cons] at taken
    cases step : state.extend clause with
    | error rejection =>
      rw [step] at taken
      cases taken
    | ok next =>
      rw [step] at taken
      have whole := ih (shape.extend step) taken
      rwa [List.append_assoc] at whole

/-- A list of clauses that compiles has the shape of the state that its scan describes. -/
theorem shape_of_ofClauses? {clauses : List Clause} {scan : Scan}
    (compiled : Scan.ofClauses? clauses = .ok scan) :
    ∃ state, Shape clauses state ∧ scan = state.scan := by
  -- No clause at all has the shape of equalities, and the clauses are taken up from there.
  unfold Scan.ofClauses? at compiled
  cases folded : clauses.foldlM KeyState.extend (.equal []) with
  | error rejection =>
    rw [folded] at compiled
    cases compiled
  | ok state =>
    rw [folded] at compiled
    cases compiled
    exact ⟨state, (Shape.equal []).foldlM folded, rfl⟩

/-- Equalities are taken up one after the other. -/
theorem foldlM_extend_equalities (pairs : List (String × Json)) (components : List Json) :
    (equalities pairs).foldlM KeyState.extend (.equal components) =
      .ok (.equal (components ++ pairs.map Prod.snd)) := by
  -- By induction on the equalities: each adds its value at the end of the components.
  induction pairs generalizing components with
  | nil => rw [List.map_nil, List.append_nil]; rfl
  | cons pair pairs ih =>
    have later := ih (components ++ [pair.2])
    rw [List.append_assoc] at later
    exact later

/-- Equalities compile, whatever their fields and values are. -/
theorem ofClauses?_equalities (pairs : List (String × Json)) :
    Scan.ofClauses? (equalities pairs) = .ok (KeyState.equal (pairs.map Prod.snd)).scan := by
  rw [Scan.ofClauses?, foldlM_extend_equalities]
  rfl

end DocView
