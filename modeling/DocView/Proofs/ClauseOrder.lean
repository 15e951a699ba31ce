import DocView.Proofs.Query

/-!
The lists of clauses that compile: equalities, and behind them nothing, one range or some orders.
Any other list is rejected at its first clause out of order, and so is a query built from it.
-/

namespace DocView

/-- Clauses in order: equalities, and behind them nothing, one range or some orders. -/
def InOrder (clauses : List Clause) : Prop :=
  ∃ (pairs : List (String × Json)) (behind : List Clause), clauses = equalities pairs ++ behind ∧
    (behind = [] ∨ (∃ field bound value, behind = [.range field bound value]) ∨
      ∃ first others, behind = orders (first :: others))

/-- What clauses ask a view for. -/
inductive Asks : List Clause → Scan → Prop where
  /-- No clauses ask for the whole view. -/
  | whole : Asks [] {}
  /-- Equalities ask for the key of their values. -/
  | key (pair : String × Json) (pairs : List (String × Json)) :
    Asks (equalities (pair :: pairs)) { key := some ((pair :: pairs).map Prod.snd) }
  /-- A lower bound asks for what follows it, up to the highest value. -/
  | lower (pairs : List (String × Json)) (field : String) (value : Json) :
    Asks (equalities pairs ++ [.range field .lower value])
      { startKey := some (pairs.map Prod.snd ++ [value])
        endKey := some (pairs.map Prod.snd ++ [.object ∅]) }
  /-- An upper bound asks for what precedes it, down to the lowest value. -/
  | upper (pairs : List (String × Json)) (field : String) (value : Json) :
    Asks (equalities pairs ++ [.range field .upper value])
      { startKey := some (pairs.map Prod.snd ++ [.null])
        endKey := some (pairs.map Prod.snd ++ [value]) }
  /-- Orders, the last of them ascending, ask for all that begins as the equalities say. -/
  | ascending (pairs : List (String × Json)) (before : List (String × Direction))
    (field : String) :
    Asks (equalities pairs ++ orders (before ++ [(field, .ascending)]))
      { startKey := some (pairs.map Prod.snd ++ [.null])
        endKey := some (pairs.map Prod.snd ++ [.object ∅]) }
  /-- Orders, the last of them descending, ask for the same from its end. -/
  | descending (pairs : List (String × Json)) (before : List (String × Direction))
    (field : String) :
    Asks (equalities pairs ++ orders (before ++ [(field, .descending)]))
      { startKey := some (pairs.map Prod.snd ++ [.object ∅])
        endKey := some (pairs.map Prod.snd ++ [.null])
        descending := true }

/-- The stage that a clause brings the key to. -/
def Clause.stage : Clause → KeyStage
  | equality .. => .equal
  | range _ .lower _ => .greater
  | range _ .upper _ => .less
  | order .. => .ordered

/-- The stage that the last of some clauses has brought the key to. -/
def stageBehind (clauses : List Clause) : KeyStage :=
  (clauses.getLast?.map Clause.stage).getD .equal

/-- A clause is the first of a list that may not follow the clauses before it. -/
structure FirstMisplaced (clauses before : List Clause) (clause : Clause) : Prop where
  /-- The clauses before it are in order. -/
  inOrder : InOrder before
  /-- They are so no more with the clause. -/
  misplaced : ¬InOrder (before ++ [clause])
  /-- The list goes on with anything. -/
  follows : ∃ later, clauses = before ++ clause :: later

section Folding

variable {α ε σ : Type} {take : σ → α → Except ε σ}

/-- What fails on some elements fails in the same way on any more. -/
theorem foldlM_append_of_error {before : List α} {start : σ} {error : ε}
    (failed : before.foldlM take start = .error error) (later : List α) :
    (before ++ later).foldlM take start = .error error := by
  rw [List.foldlM_append, failed]
  rfl

/-- Elements are taken one after the other until one of them cannot be taken. -/
theorem foldlM_eq_error_iff {elements : List α} {start : σ} {error : ε} :
    elements.foldlM take start = .error error ↔
      ∃ before element later state, elements = before ++ element :: later ∧
        before.foldlM take start = .ok state ∧ take state element = .error error := by
  -- Taking up stops at the first element that fails.
  constructor
  · -- By induction on the elements, the first of which either fails itself or leads on.
    intro failed
    induction elements generalizing start with
    | nil => cases failed
    | cons first others ih =>
      rw [List.foldlM_cons] at failed
      cases taken : take start first with
      | error other =>
        rw [taken] at failed
        cases failed
        exact ⟨[], first, others, start, rfl, rfl, taken⟩
      | ok next =>
        rw [taken] at failed
        obtain ⟨before, element, later, state, rfl, reached, failed⟩ := ih failed
        refine ⟨first :: before, element, later, state, rfl, ?_, failed⟩
        rw [List.foldlM_cons, taken]
        exact reached
  · rintro ⟨before, element, later, state, rfl, reached, failed⟩
    rw [List.foldlM_append, reached]
    show (element :: later).foldlM take state = .error error
    rw [List.foldlM_cons, failed]
    rfl

end Folding

/-- Orders behind equalities leave the components as they are, and the last one counts. -/
theorem foldlM_extend_orders (before : List (String × Direction)) (field : String)
    (direction : Direction) (components : List Json) :
    (orders (before ++ [(field, direction)])).foldlM KeyState.extend (.equal components) =
      .ok (.ordered components direction) := by
  -- Once there is an order, each further one only replaces its direction.
  have replaced : ∀ (pairs : List (String × Direction)) (earlier : Direction),
      (orders (pairs ++ [(field, direction)])).foldlM KeyState.extend
        (.ordered components earlier) = .ok (.ordered components direction) := by
    intro pairs
    induction pairs with
    | nil => intro earlier; rfl
    | cons pair pairs ih => exact fun _ => ih pair.2
  cases before with
  | nil => rfl
  | cons pair pairs => exact replaced pairs pair.2

/-- Every list of a shape is taken up, and leads to the state of its shape. -/
theorem Shape.foldlM_eq {clauses : List Clause} {state : KeyState} (shape : Shape clauses state) :
    clauses.foldlM KeyState.extend (.equal []) = .ok state := by
  -- The equalities come first in every shape, and what is behind them takes the last steps.
  cases shape with
  | equal pairs => exact foldlM_extend_equalities pairs []
  | ordered pairs before field direction =>
    rw [List.foldlM_append, foldlM_extend_equalities]
    exact foldlM_extend_orders before field direction _
  | lower pairs field value | upper pairs field value =>
    rw [List.foldlM_append, foldlM_extend_equalities]
    rfl

/-- Clauses lead to a state exactly if they have its shape. -/
theorem foldlM_extend_eq_ok_iff {clauses : List Clause} {state : KeyState} :
    clauses.foldlM KeyState.extend (.equal []) = .ok state ↔ Shape clauses state := by
  constructor
  · intro taken
    exact (Shape.equal []).foldlM taken
  · exact Shape.foldlM_eq

/-- Clauses compile exactly to the scan of the state whose shape they have. -/
theorem ofClauses?_eq_ok_iff {clauses : List Clause} {scan : Scan} :
    Scan.ofClauses? clauses = .ok scan ↔ ∃ state, Shape clauses state ∧ scan = state.scan := by
  constructor
  · exact shape_of_ofClauses?
  · rintro ⟨state, shape, rfl⟩
    rw [Scan.ofClauses?, shape.foldlM_eq]
    rfl

/-- Clauses fail to compile exactly if one of them cannot be taken up. -/
theorem ofClauses?_eq_error_iff {clauses : List Clause} {rejection : Rejection} :
    Scan.ofClauses? clauses = .error rejection ↔
      clauses.foldlM KeyState.extend (.equal []) = .error rejection := by
  -- What is made of the last state cannot fail.
  unfold Scan.ofClauses?
  cases clauses.foldlM KeyState.extend (.equal []) with
  | ok state => exact ⟨nofun, nofun⟩
  | error other =>
    show Except.error other = Except.error rejection ↔ _
    rw [Except.error.injEq, Except.error.injEq]

/-- A list has a shape exactly if its clauses are in order. -/
theorem exists_shape_iff {clauses : List Clause} :
    (∃ state, Shape clauses state) ↔ InOrder clauses := by
  -- The states of a key go with the three ways in which a list can go on behind its equalities.
  constructor
  · rintro ⟨state, shape⟩
    cases shape with
    | equal pairs => exact ⟨pairs, [], (List.append_nil _).symm, .inl rfl⟩
    | lower pairs field value | upper pairs field value =>
      exact ⟨pairs, _, rfl, .inr (.inl ⟨field, _, value, rfl⟩)⟩
    | ordered pairs before field direction =>
      -- Seen from its front, a list that ends in an order begins with one.
      cases before with
      | nil => exact ⟨pairs, _, rfl, .inr (.inr ⟨(field, direction), [], rfl⟩)⟩
      | cons pair before =>
        exact ⟨pairs, _, rfl, .inr (.inr ⟨pair, before ++ [(field, direction)], rfl⟩)⟩
  · -- Conversely each of the three ways to go on has a state of its own.
    rintro ⟨pairs, behind, rfl, rfl | ⟨field, bound, value, rfl⟩ | ⟨first, others, rfl⟩⟩
    · rw [List.append_nil]
      exact ⟨_, .equal pairs⟩
    · cases bound with
      | lower => exact ⟨_, .lower pairs field value⟩
      | upper => exact ⟨_, .upper pairs field value⟩
    · -- Seen from its back, a list that begins with an order ends in one.
      have split := List.dropLast_concat_getLast (List.cons_ne_nil first others)
      rw [← split]
      exact ⟨_, .ordered pairs _ _ _⟩

/-- Clauses ask for a scan exactly if it is the scan of the state whose shape they have. -/
theorem asks_iff {clauses : List Clause} {scan : Scan} :
    Asks clauses scan ↔ ∃ state, Shape clauses state ∧ scan = state.scan := by
  -- What the clauses ask for goes by the same cases as their states.
  constructor
  · -- What is asked for is what the state of the same clauses describes.
    intro asks
    cases asks with
    | whole => exact ⟨_, .equal [], rfl⟩
    | key pair pairs => exact ⟨_, .equal (pair :: pairs), rfl⟩
    | lower pairs field value => exact ⟨_, .lower pairs field value, rfl⟩
    | upper pairs field value => exact ⟨_, .upper pairs field value, rfl⟩
    | ascending pairs before field => exact ⟨_, .ordered pairs before field .ascending, rfl⟩
    | descending pairs before field => exact ⟨_, .ordered pairs before field .descending, rfl⟩
  · rintro ⟨state, shape, rfl⟩
    cases shape with
    | equal pairs =>
      -- No equality asks for the whole view, not for an empty key.
      cases pairs with
      | nil => exact .whole
      | cons pair pairs => exact .key pair pairs
    | lower pairs field value => exact .lower pairs field value
    | upper pairs field value => exact .upper pairs field value
    | ordered pairs before field direction =>
      cases direction with
      | ascending => exact .ascending pairs before field
      | descending => exact .descending pairs before field

/-- A scan has either one key or two ends, never both. -/
theorem Asks.key_or_ends {clauses : List Clause} {scan : Scan} (asks : Asks clauses scan) :
    scan.key = none ∨ (scan.startKey = none ∧ scan.endKey = none) := by
  cases asks with
  | whole | key => exact .inr ⟨rfl, rfl⟩
  | lower | upper | ascending | descending => exact .inl rfl

/-- A view is read from its end exactly if the last clause is a descending order. -/
theorem Asks.descending_iff {clauses : List Clause} {scan : Scan} (asks : Asks clauses scan) :
    scan.descending = true ↔ ∃ field, clauses.getLast? = some (.order field .descending) := by
  -- Only a scan that is asked for by an order can descend, and that order is the last clause.
  cases asks with
  | whole => simp
  | key pair pairs =>
    -- The last clause is one of the equalities.
    have last : ∃ field value, (equalities (pair :: pairs)).getLast? =
        some (.equality field value) := by
      rw [equalities, List.getLast?_map]
      simp [List.getLast?_cons]
    obtain ⟨field, value, last⟩ := last
    simp [last]
  | lower | upper => simp
  | ascending | descending => simp [orders]

/-- The stage of a state is that of the last clause that led to it. -/
theorem Shape.stage_eq {clauses : List Clause} {state : KeyState} (shape : Shape clauses state) :
    state.stage = stageBehind clauses := by
  -- The stage is told by the last clause, which is of the kind that the state was left by.
  cases shape with
  | equal pairs =>
    rw [stageBehind, equalities, List.getLast?_map]
    cases pairs.getLast? <;> rfl
  | ordered pairs before field direction =>
    simp [stageBehind, orders, Clause.stage, KeyState.stage]
  | lower | upper => simp [stageBehind, Clause.stage, KeyState.stage]

/-- A state rejects a clause exactly if the clause is out of order behind what led to the state. -/
theorem Shape.extend_eq_error_iff {clauses : List Clause} {state : KeyState} {clause : Clause}
    {rejection : Rejection} (shape : Shape clauses state) :
    state.extend clause = .error rejection ↔
      ¬InOrder (clauses ++ [clause]) ∧ rejection = .outOfOrder clause (stageBehind clauses) := by
  -- The clauses lead to the state, so they are taken up with one more if the state takes it.
  have whole : (clauses ++ [clause]).foldlM KeyState.extend (.equal []) = state.extend clause := by
    rw [List.foldlM_append, shape.foldlM_eq]
    show [clause].foldlM KeyState.extend state = _
    rw [List.foldlM_cons]
    cases state.extend clause <;> rfl
  cases taken : state.extend clause with
  | ok next =>
    -- What is taken up is in order.
    have inOrder := exists_shape_iff.mp ⟨next, shape.extend taken⟩
    exact ⟨nofun, fun ⟨misplaced, _⟩ => absurd inOrder misplaced⟩
  | error other =>
    have misplaced : ¬InOrder (clauses ++ [clause]) := by
      intro inOrder
      obtain ⟨next, longer⟩ := exists_shape_iff.mpr inOrder
      rw [longer.foldlM_eq, taken] at whole
      cases whole
    -- The only way to fail names the clause, and the stage it came upon.
    have named : other = .outOfOrder clause (stageBehind clauses) := by
      rw [← shape.stage_eq]
      unfold KeyState.extend at taken
      split at taken
      case h_6 => exact (Except.error.inj taken).symm
      all_goals cases taken
    rw [Except.error.injEq, named]
    exact ⟨fun same => ⟨misplaced, same.symm⟩, fun ⟨_, same⟩ => same.symm⟩

/-- Clauses are rejected exactly for the first of them that is out of order. -/
theorem ofClauses?_eq_error_iff_firstMisplaced {clauses : List Clause} {rejection : Rejection} :
    Scan.ofClauses? clauses = .error rejection ↔
      ∃ before clause, FirstMisplaced clauses before clause ∧
        rejection = .outOfOrder clause (stageBehind before) := by
  -- The clauses before it lead to a state, and that state rejects it.
  rw [ofClauses?_eq_error_iff, foldlM_eq_error_iff]
  constructor
  · rintro ⟨before, clause, later, state, split, reached, failed⟩
    have shape := foldlM_extend_eq_ok_iff.mp reached
    obtain ⟨misplaced, named⟩ := shape.extend_eq_error_iff.mp failed
    exact ⟨before, clause, ⟨exists_shape_iff.mp ⟨state, shape⟩, misplaced, later, split⟩, named⟩
  · rintro ⟨before, clause, ⟨inOrder, misplaced, later, split⟩, named⟩
    obtain ⟨state, shape⟩ := exists_shape_iff.mpr inOrder
    exact ⟨before, clause, later, state, split, shape.foldlM_eq,
      shape.extend_eq_error_iff.mpr ⟨misplaced, named⟩⟩

/-- Clauses compile exactly if they are in order. -/
theorem exists_ofClauses?_iff {clauses : List Clause} :
    (∃ scan, Scan.ofClauses? clauses = .ok scan) ↔ InOrder clauses := by
  -- A list in order has a state, and the state has a scan.
  rw [← exists_shape_iff]
  constructor
  · rintro ⟨scan, compiled⟩
    obtain ⟨state, shape, _⟩ := ofClauses?_eq_ok_iff.mp compiled
    exact ⟨state, shape⟩
  · rintro ⟨state, shape⟩
    exact ⟨state.scan, ofClauses?_eq_ok_iff.mpr ⟨state, shape, rfl⟩⟩

/-- No clauses are in order. -/
theorem inOrder_nil : InOrder [] := exists_shape_iff.mp ⟨_, .equal []⟩

namespace Query

/-- The same query with other clauses. -/
def withClauses (query : Query) (clauses : List Clause) : Query :=
  { query with plan := { query.plan with clauses } }

/-- A query takes a clause exactly if all its clauses compile with it. -/
theorem addClause_eq (query : Query) (clause : Clause) :
    query.addClause clause = (Scan.ofClauses? (query.plan.clauses ++ [clause])).map fun _ =>
      query.withClauses (query.plan.clauses ++ [clause]) := by
  simp only [addClause]
  cases Scan.ofClauses? (query.plan.clauses ++ [clause]) <;> rfl

/-- Clauses that are added one by one are taken, or rejected, as they are all at once. -/
theorem foldlM_addClause (query : Query) (later : List Clause)
    (inOrder : InOrder query.plan.clauses) :
    later.foldlM addClause query = (Scan.ofClauses? (query.plan.clauses ++ later)).map fun _ =>
      query.withClauses (query.plan.clauses ++ later) := by
  -- By induction on what is to be added, for every query whose clauses are in order so far.
  induction later generalizing query with
  | nil =>
    obtain ⟨scan, compiled⟩ := exists_ofClauses?_iff.mpr inOrder
    rw [List.append_nil, compiled]
    rfl
  | cons clause later ih =>
    rw [List.foldlM_cons, addClause_eq]
    cases compiled : Scan.ofClauses? (query.plan.clauses ++ [clause]) with
    | ok scan =>
      -- The clause is taken, and the others are added to a query in order.
      have next := ih (query.withClauses (query.plan.clauses ++ [clause]))
        (exists_ofClauses?_iff.mp ⟨scan, compiled⟩)
      simp only [withClauses, List.append_assoc, List.singleton_append] at next
      exact next
    | error rejection =>
      -- The whole list fails where its beginning does.
      have failed := foldlM_append_of_error (ofClauses?_eq_error_iff.mp compiled) later
      rw [List.append_assoc] at failed
      rw [show Scan.ofClauses? (query.plan.clauses ++ clause :: later) = .error rejection from
        ofClauses?_eq_error_iff.mpr failed]
      rfl

/-- A query that was built asks for a scan. -/
theorem Built.scan? {query : Query} (built : query.Built) : ∃ scan, query.scan? = .ok scan := by
  obtain ⟨scan, compiled⟩ := built.ofClauses?
  exact ⟨_, scan?_of_ofClauses? compiled⟩

end Query

/-- The order of clauses decides what becomes of them, whether all at once or one by one. -/
structure OrderDecides (clauses : List Clause) : Prop where
  /-- Those in order compile, and no others. -/
  accepts : (∃ scan, Scan.ofClauses? clauses = .ok scan) ↔ InOrder clauses
  /-- They compile to the scan that they ask for. -/
  asks : ∀ scan, Scan.ofClauses? clauses = .ok scan ↔ Asks clauses scan
  /-- A scan has one key or two ends, never both. -/
  keyOrEnds : ∀ scan, Scan.ofClauses? clauses = .ok scan →
    scan.key = none ∨ (scan.startKey = none ∧ scan.endKey = none)
  /-- It begins at the end of the view only for a descending order as the last clause. -/
  descends : ∀ scan, Scan.ofClauses? clauses = .ok scan →
    (scan.descending = true ↔ ∃ field, clauses.getLast? = some (.order field .descending))
  /-- All others are rejected for the first clause out of order, whatever follows it. -/
  rejects : ∀ rejection, Scan.ofClauses? clauses = .error rejection ↔
    ∃ before clause, FirstMisplaced clauses before clause ∧
      rejection = .outOfOrder clause (stageBehind before)
  /-- Added one by one to a query without clauses, they are taken or rejected just so. -/
  adds : ∀ query : Query, query.plan.clauses = [] →
    clauses.foldlM Query.addClause query =
      (Scan.ofClauses? clauses).map fun _ => query.withClauses clauses
  /-- The query takes all clauses before the first one out of order, and stops there. -/
  stops : ∀ query : Query, query.plan.clauses = [] → ∀ before clause,
    FirstMisplaced clauses before clause →
      before.foldlM Query.addClause query = .ok (query.withClauses before) ∧
      (query.withClauses before).addClause clause =
        .error (.outOfOrder clause (stageBehind before))
  /-- Every query that was built with them asks for a scan. -/
  built : ∀ query : Query, query.Built → query.plan.clauses = clauses →
    ∃ scan, query.scan? = .ok scan

/-- Whatever the clauses are, their order decides. -/
theorem order_decides (clauses : List Clause) : OrderDecides clauses where
  accepts := exists_ofClauses?_iff
  asks scan := ofClauses?_eq_ok_iff.trans asks_iff.symm
  keyOrEnds scan compiled := (asks_iff.mpr (ofClauses?_eq_ok_iff.mp compiled)).key_or_ends
  descends scan compiled := (asks_iff.mpr (ofClauses?_eq_ok_iff.mp compiled)).descending_iff
  rejects _ := ofClauses?_eq_error_iff_firstMisplaced
  adds query fresh := by
    have added := query.foldlM_addClause clauses (by rw [fresh]; exact inOrder_nil)
    rwa [fresh] at added
  stops query fresh before clause first := by
    have added := query.foldlM_addClause before (by rw [fresh]; exact inOrder_nil)
    obtain ⟨scan, compiled⟩ := exists_ofClauses?_iff.mpr first.inOrder
    rw [fresh, List.nil_append, compiled] at added
    refine ⟨added, ?_⟩
    -- The clause is the first out of order also of the list that it ends.
    have rejected := ofClauses?_eq_error_iff_firstMisplaced.mpr
      ⟨before, clause, ⟨first.inOrder, first.misplaced, [], rfl⟩, rfl⟩
    rw [Query.addClause_eq]
    show (Scan.ofClauses? (before ++ [clause])).map _ = _
    rw [rejected]
    rfl
  built query built _ := built.scan?

end DocView
