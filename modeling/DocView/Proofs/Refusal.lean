import DocView.Proofs.Answer
import DocView.Proofs.Store.Views

/-!
What a store that has the view of a query refuses. A value that nests too deep cannot be read back,
and a lower bound behind the end of key order would turn the range round; nothing else is refused.
-/

namespace DocView

/-- A clause with its value as it is read back. -/
def Clause.reread : Clause → Clause
  | .equality field value => .equality field value.reread
  | .range field bound value => .range field bound value.reread
  | .order field direction => .order field direction

/-- What is fixed of a key, as it is read back. -/
def KeyState.reread : KeyState → KeyState
  | .equal components => .equal (Json.rereadItems components)
  | .ordered components direction => .ordered (Json.rereadItems components) direction
  | .ranged bound start stop => .ranged bound (Json.rereadItems start) (Json.rereadItems stop)

/-- The scan that is read back is the one of the state that is read back. -/
theorem KeyState.scan_reread (state : KeyState) : state.reread.scan = state.scan.reread := by
  cases state with
  | equal components => cases components <;> rfl
  | ordered components direction =>
    cases direction <;> simp [reread, scan, Scan.reread, Json.rereadItems_eq_map] <;> decide
  | ranged bound start stop => rfl

/-- The values that are read back lead to the state that is read back. -/
theorem Shape.reread {clauses : List Clause} {state : KeyState} (shape : Shape clauses state) :
    Shape (clauses.map Clause.reread) state.reread := by
  -- The fields and the directions stay as they are.
  have equalities_reread (pairs : List (String × Json)) :
      (equalities pairs).map Clause.reread =
        equalities (pairs.map fun pair => (pair.1, pair.2.reread)) := by
    simp [equalities, Clause.reread]
  have values_reread (pairs : List (String × Json)) (later : List Json) :
      Json.rereadItems (pairs.map Prod.snd ++ later) =
        (pairs.map fun pair => (pair.1, pair.2.reread)).map Prod.snd ++ later.map Json.reread := by
    simp [Json.rereadItems_eq_map]
  have orders_reread (pairs : List (String × Direction)) :
      (orders pairs).map Clause.reread = orders pairs := by
    simp [orders, Clause.reread]
  cases shape with
  | equal pairs =>
    have values := values_reread pairs []
    rw [List.map_nil, List.append_nil, List.append_nil] at values
    rw [equalities_reread, KeyState.reread, values]
    exact .equal _
  | ordered pairs before field direction =>
    have values := values_reread pairs []
    rw [List.map_nil, List.append_nil, List.append_nil] at values
    rw [List.map_append, equalities_reread, orders_reread, KeyState.reread, values]
    exact .ordered _ before field direction
  | lower pairs field value =>
    rw [List.map_append, equalities_reread, KeyState.reread, values_reread, values_reread]
    exact .lower _ field value.reread
  | upper pairs field value =>
    rw [List.map_append, equalities_reread, KeyState.reread, values_reread, values_reread]
    exact .upper _ field value.reread

/-- Reading a value back does not move it across the end of key order. -/
theorem collate_highest_reread (value : Json) :
    value.reread.collate highest = value.collate highest := by
  -- The end is the empty object, so the kind of the value and whether it has a member decide.
  cases value with
  | object members => cases members <;> rfl
  | _ => rfl

/-- Bounds stay before the end of key order when they are read back. -/
theorem BoundsWithin.reread {clauses : List Clause} (within : BoundsWithin clauses) :
    BoundsWithin (clauses.map Clause.reread) := by
  -- A bound has the same place among all values when it is read back.
  intro field value member
  obtain ⟨clause, held, same⟩ := List.mem_map.1 member
  cases clause with
  | range own bound bare =>
    cases same
    rw [collate_highest_reread]
    exact within field bare held
  | equality => cases same
  | order => cases same

section Keys

variable {clauses : List Clause} {state : KeyState}

/-- Every value of the clauses is a component of a key. -/
theorem Shape.hasKey_of_value (shape : Shape clauses state) {clause : Clause}
    (member : clause ∈ clauses) {value : Json} (own : clause.value? = some value) :
    ∃ key, state.scan.HasKey key ∧ value ∈ key := by
  -- Every value stands in a key, those of the equalities before that of a range.
  have fixed : ∀ pairs : List (String × Json), clause ∈ equalities pairs →
      value ∈ pairs.map Prod.snd := by
    intro pairs included
    obtain ⟨pair, held, rfl⟩ := List.mem_map.1 included
    exact List.mem_map.2 ⟨pair, held, Option.some.inj own⟩
  -- Which of the three keys it is depends on the kind of the state.
  cases shape with
  | equal pairs =>
    cases pairs with
    | nil => cases member
    | cons pair pairs => exact ⟨_, .inl rfl, fixed _ member⟩
  | ordered pairs before field direction =>
    rcases List.mem_append.1 member with equality | order
    · -- Whichever way it is read, the range starts from the values of the equalities.
      cases direction with
      | ascending => exact ⟨_, .inr (.inl rfl), List.mem_append_left _ (fixed pairs equality)⟩
      | descending => exact ⟨_, .inr (.inl rfl), List.mem_append_left _ (fixed pairs equality)⟩
    · obtain ⟨pair, _, rfl⟩ := List.mem_map.1 order
      cases own
  | lower pairs field bound =>
    rcases List.mem_append.1 member with equality | range
    · exact ⟨_, .inr (.inl rfl), List.mem_append_left _ (fixed pairs equality)⟩
    · obtain rfl := List.mem_singleton.1 range
      cases own
      exact ⟨_, .inr (.inl rfl), by simp⟩
  | upper pairs field bound =>
    rcases List.mem_append.1 member with equality | range
    · exact ⟨_, .inr (.inr rfl), List.mem_append_left _ (fixed pairs equality)⟩
    · obtain rfl := List.mem_singleton.1 range
      cases own
      exact ⟨_, .inr (.inr rfl), by simp⟩

/-- Whether a value of the clauses nests too deep to stand in the list of a key. -/
def NestsTooDeep (clauses : List Clause) : Prop :=
  ∃ clause ∈ clauses, ∃ value, clause.value? = some value ∧ 126 < value.depth

/-- Equalities nest too deep only if one of their values does. -/
theorem not_nestsTooDeep_equalities {pairs : List (String × Json)}
    (shallow : ∀ pair ∈ pairs, pair.2.depth ≤ 126) : ¬NestsTooDeep (equalities pairs) := by
  rintro ⟨clause, member, value, own, deep⟩
  obtain ⟨pair, included, rfl⟩ := List.mem_map.1 member
  cases own
  exact absurd deep (Nat.not_lt.2 (shallow pair included))

/-- The keys of a state are shallow unless a value of the clauses nests too deep. -/
theorem Shape.isShallow (shape : Shape clauses state) (flat : ¬NestsTooDeep clauses)
    {key : List Json} (given : state.scan.HasKey key) : Scan.IsShallow key := by
  -- A component too deep for the reader would be a value that nests too deep.
  refine Scan.isShallow_iff.2 fun component member => ?_
  -- Besides the values there are only the two ends of key order, which are flat.
  rcases shape.component_of_hasKey given member with rfl | rfl | ⟨clause, included, value⟩
  · decide
  · decide
  · exact Nat.le_of_not_lt fun deep => flat ⟨clause, included, component, value, deep⟩

/-- A key of the state is not shallow if a value of the clauses nests too deep. -/
theorem Shape.exists_not_isShallow (shape : Shape clauses state) (deep : NestsTooDeep clauses) :
    ∃ key, state.scan.HasKey key ∧ ¬Scan.IsShallow key := by
  obtain ⟨clause, member, value, own, deep⟩ := deep
  obtain ⟨key, given, component⟩ := shape.hasKey_of_value member own
  exact ⟨key, given, fun shallow =>
    absurd deep (Nat.not_lt.2 (Scan.isShallow_iff.1 shallow value component))⟩

end Keys

/-- The reply that refuses a query string, and tells what is wrong with it. -/
def refusal (reason : String) : Reply :=
  ⟨400, .ofMembers [("error", .string "query_parse_error"), ("reason", .string reason)]⟩

/-- What is told of a parameter whose text nests too deep at a place. -/
def depthReason (name : String) (line column : Nat) : String :=
  "invalid " ++ name ++ ": " ++
    ("recursion limit exceeded" ++ " at line " ++ toString line ++ " column " ++ toString column)

/-- A value that nests too deep is refused for that reason. -/
theorem KeyRangeError.message_tooDeep (name : String) (place : Json.Place) :
    (badKey name ⟨.tooDeep, place⟩).message = depthReason name place.line place.column :=
  rfl

/-- A query string that is read is answered with the rows of its range. -/
theorem MemoryStore.answerRows_of_range (rows : List Json) {query : String} {range : KeyRange}
    (read : KeyRange.ofQuery? query = .ok range) :
    answerRows rows query = ⟨200, .ofMembers [("total_rows", .ofCount rows.length),
      ("offset", .ofCount 0), ("rows", .array (range.select rows))]⟩ := by
  rw [answerRows, read]

/-- A query string that is not read is answered with what is wrong with it. -/
theorem MemoryStore.answerRows_of_error (rows : List Json) {query : String} {error : KeyRangeError}
    (unread : KeyRange.ofQuery? query = .error error) :
    answerRows rows query = refusal error.message := by
  rw [answerRows, unread]
  rfl

/-- A view that is there leaves the answer to the query string. -/
theorem answer_of_present {query : Query} {request : ViewRequest} (built : query.request? = .ok request)
    {store : MemoryStore}
    (present : store.viewExists (dropTrailing '/' query.plan.container) query.viewName = true) :
    (store.answer (.queryView request.path request.query)).1 =
      .ok (MemoryStore.answerRows ((store.rows.get? query.viewName).getD []) request.query) := by
  obtain ⟨path, _⟩ := Query.of_request? built
  refine congrArg Except.ok (MemoryStore.viewReply_of_present ?_ present request.query)
  rw [path, splitViewPath?_viewPath]

/-- The query string of a request is read if no value nests too deep and no bound is behind the end. -/
theorem exists_range_of_request? {query : Query} {request : ViewRequest}
    (built : query.request? = .ok request) (within : BoundsWithin query.plan.clauses)
    (flat : ¬NestsTooDeep query.plan.clauses) :
    ∃ range, KeyRange.ofQuery? request.query = .ok range := by
  -- A query string is refused for its depth or for a reversed range, and it has neither.
  obtain ⟨_, state, shape, text⟩ := Query.of_request? built
  -- What is read back has the shape of what was written, so it does not end before it starts.
  have forward : state.scan.reread.range.isReversed = false := by
    rw [← state.scan_reread]
    exact shape.reread.isReversed_range_of_within within.reread
  rw [text]
  exact ⟨_, Scan.ofQuery?_reread (fun key given => shape.isShallow flat given) forward⟩

/--
A query of a view that is there is refused exactly if one of its values nests too deep.

The values are any JSON values, and no lower bound stands behind the end of key order. The scan of
such a query does not end before it starts, in the direction in which it is read.
-/
theorem answer_refused {query : Query} {request : ViewRequest} (built : query.request? = .ok request)
    (within : BoundsWithin query.plan.clauses) {store : MemoryStore}
    (present : store.viewExists (dropTrailing '/' query.plan.container) query.viewName = true) :
    (∀ scan start stop, query.scan? = .ok scan →
      scan.startKey = some start → scan.endKey = some stop →
      (Json.array start).collate (.array stop) ≠ if scan.descending then .lt else .gt) ∧
    (NestsTooDeep query.plan.clauses → ∃ name line column,
      (store.answer (.queryView request.path request.query)).1 =
        .ok (refusal (depthReason name line column))) ∧
    (¬NestsTooDeep query.plan.clauses → ∃ selected,
      (store.answer (.queryView request.path request.query)).1 =
        .ok ⟨200, .ofMembers [
          ("total_rows", .ofCount ((store.rows.get? query.viewName).getD []).length),
          ("offset", .ofCount 0), ("rows", .array selected)]⟩) := by
  -- The view is there, so the reply hangs on how the query string is read.
  obtain ⟨_, state, shape, text⟩ := Query.of_request? built
  have reply := answer_of_present built present
  refine ⟨?_, ?_, ?_⟩
  · -- The scan as it is written, before its query string is made.
    intro scan start stop scanned first last
    obtain ⟨_, compiled, rfl⟩ := Query.of_scan? scanned
    have forward := compiled.isReversed_range_of_within within
    dsimp only at first last
    simpa [KeyRange.isReversed, Scan.range, first, last] using forward
  · -- The key that holds the value is refused, whatever was taken up before it.
    intro nested
    obtain ⟨key, given, deep⟩ := shape.exists_not_isShallow nested
    obtain ⟨name, place, refused⟩ := Scan.ofQuery?_tooDeep { state.scan with
      includeDocs := query.plan.includeDocs, limit := query.plan.limit } given deep
    rw [← text] at refused
    refine ⟨name, place.line, place.column, reply.trans (congrArg Except.ok ?_)⟩
    rw [MemoryStore.answerRows_of_error _ refused, KeyRangeError.message_tooDeep]
  · -- All keys are read, and what is read back does not end before it starts either.
    intro flat
    obtain ⟨range, read⟩ := exists_range_of_request? built within flat
    exact ⟨_, reply.trans (congrArg Except.ok (MemoryStore.answerRows_of_range _ read))⟩

/-- A query of the pages with a field that meets a condition. -/
def pagesWith (condition : Clause) : Query where
  plan := { documentType := "Page", container := "_design/example", clauses := [condition] }
  retryBudget := 3

/-- A store that has the view of pages by one field. -/
def pageStore : MemoryStore where
  documents := Table.ofList [("_design/example", .ofMembers [
    ("views", .ofMembers [("QC-Page-a", .null)])])]

/-- The id of these queries has no slash at its end. -/
theorem dropTrailing_pagesWith (condition : Clause) :
    dropTrailing '/' (pagesWith condition).plan.container = "_design/example" := by
  have container : (pagesWith condition).plan.container = "_design/example" := rfl
  rw [container]
  decide +kernel

/-- The store has the view of a condition on that field. -/
theorem viewExists_pageStore {condition : Clause} (field : condition.field = "a") :
    pageStore.viewExists "_design/example" (pagesWith condition).viewName = true := by
  have name : (pagesWith condition).viewName = viewName "Page" [condition.field] := rfl
  rw [name, field]
  decide +kernel

/-- The store answers to the query string of a condition on that field. -/
theorem answer_pageStore {condition : Clause} (field : condition.field = "a") {request : ViewRequest}
    (built : (pagesWith condition).request? = .ok request) :
    (pageStore.answer (.queryView request.path request.query)).1 =
      .ok (MemoryStore.answerRows ((pageStore.rows.get? (pagesWith condition).viewName).getD [])
        request.query) :=
  answer_of_present built (by rw [dropTrailing_pagesWith]; exact viewExists_pageStore field)

/-- The number 36.6. -/
def warm : Json := .number (.float ⟨false, 4630347809383304397, by decide⟩)

/-- A bound that is a float is taken, whatever float is read in its place. -/
theorem answer_refused_float :
    ∃ request, (pagesWith (.range "a" .lower warm)).request? = .ok request ∧ ∃ selected,
      (pageStore.answer (.queryView request.path request.query)).1 =
        .ok ⟨200, .ofMembers [("total_rows", .ofCount 0), ("offset", .ofCount 0),
          ("rows", .array selected)]⟩ := by
  -- The bound is one number, which lies within all bounds and nests nothing.
  have built : ∃ request, (pagesWith (.range "a" .lower warm)).request? = .ok request := ⟨_, rfl⟩
  obtain ⟨request, built⟩ := built
  have within : BoundsWithin (pagesWith (.range "a" .lower warm)).plan.clauses := by
    intro field value member
    cases List.mem_singleton.1 member
    decide
  have flat : ¬NestsTooDeep (pagesWith (.range "a" .lower warm)).plan.clauses := by
    rintro ⟨clause, member, value, own, deep⟩
    cases List.mem_singleton.1 member
    cases own
    exact absurd deep (by decide)
  have present : pageStore.viewExists
      (dropTrailing '/' (pagesWith (.range "a" .lower warm)).plan.container)
      (pagesWith (.range "a" .lower warm)).viewName = true := by
    rw [dropTrailing_pagesWith]
    exact viewExists_pageStore rfl
  exact ⟨request, built, (answer_refused built within present).2.2 flat⟩

/--
A value of 127 levels and a lower bound that is an object with a member are each refused.

The list of the key makes the first one level too deep. The empty object, which fills in the end of
the range, stands before the second.
-/
theorem answer_refuses_nested_and_object :
    (∃ request name line column,
      (pagesWith (.equality "a" (Scan.nested 127))).request? = .ok request ∧
      pageStore.viewExists "_design/example" request.index = true ∧
      (pageStore.answer (.queryView request.path request.query)).1 =
        .ok (refusal (depthReason name line column))) ∧
    ∃ request,
      (pagesWith (.range "a" .lower (.ofMembers [("x", .null)]))).request? = .ok request ∧
      pageStore.viewExists "_design/example" request.index = true ∧
      (pageStore.answer (.queryView request.path request.query)).1 = .ok (refusal
        ("No rows can match your key range, reverse your start_key and end_key or set " ++
          "descending=true")) := by
  -- Both requests are built, and it is the reading of their keys that fails.
  constructor
  · have scanned : (pagesWith (.equality "a" (Scan.nested 127))).scan? =
        .ok { key := some [Scan.nested 127] } := rfl
    have built := Query.request?_of_scan? scanned
    have deep : ¬Scan.IsShallow [Scan.nested 127] := by decide +kernel
    obtain ⟨name, place, refused⟩ := Scan.ofQuery?_tooDeep
      { key := some [Scan.nested 127] } (.inl rfl) deep
    refine ⟨_, name, place.line, place.column, built, viewExists_pageStore rfl,
      (answer_pageStore rfl built).trans (congrArg Except.ok ?_)⟩
    rw [MemoryStore.answerRows_of_error _ refused, KeyRangeError.message_tooDeep]
  · have scanned : (pagesWith (.range "a" .lower (.ofMembers [("x", .null)]))).scan? =
        .ok { startKey := some [.ofMembers [("x", .null)]], endKey := some [highest] } := rfl
    have built := Query.request?_of_scan? scanned
    have shallow : ∀ key, Scan.HasKey
        { startKey := some [.ofMembers [("x", .null)]], endKey := some [highest] } key →
          Scan.IsShallow key := by
      rintro key (given | given | given) <;> cases given <;> decide +kernel
    have reversed : KeyRange.ofQuery? (Scan.queryString
        { startKey := some [.ofMembers [("x", .null)]], endKey := some [highest] }) =
          .error (.reversed false) := by
      rw [Scan.ofQuery?_eq, Scan.foldlM_extend_parameters shallow]
      decide +kernel
    refine ⟨_, built, viewExists_pageStore rfl, (answer_pageStore rfl built).trans
      (congrArg Except.ok ?_)⟩
    rw [MemoryStore.answerRows_of_error _ reversed]
    decide +kernel

end DocView
