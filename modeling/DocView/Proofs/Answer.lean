import DocView.Proofs.Query
import DocView.Proofs.Selection
import DocView.Proofs.Store.RowOrder
import DocView.Proofs.ViewPath

/-!
What a query is answered by a store that has its view: the rows that its clauses admit, in the order
and up to the limit that it asks for. Nothing is lost on the way through the text of the address.
-/

namespace DocView

/-- The value that a clause compares its field with. -/
def Clause.value? : Clause → Option Json
  | .equality _ value => some value
  | .range _ _ value => some value
  | .order .. => none

/-- The direction that a clause asks for. -/
def Clause.direction? : Clause → Option Direction
  | .order _ direction => some direction
  | _ => none

/-- The direction of the last order among clauses. -/
def lastDirection? (clauses : List Clause) : Option Direction :=
  (clauses.filterMap Clause.direction?).getLast?

/-- The components of the key of a row. -/
def keyComponents (row : Json) : List Json :=
  match rowKey row with
  | .array components => components
  | _ => []

/-- The rows that clauses and a limit ask for, out of rows that are sorted by key. -/
def selectRows (clauses : List Clause) (limit : Option UInt64) (sorted : List Json) : List Json :=
  let admitted := sorted.filter fun row => admitsAll clauses (keyComponents row)
  let directed :=
    if lastDirection? clauses = some .descending then admitted.reverse else admitted
  match limit with
  | some limit => directed.take limit.toNat
  | none => directed

section Compiled

variable {clauses : List Clause} {state : KeyState}

/-- The values of equalities are values of the clauses that begin with them. -/
theorem value_of_mem_equalities {pairs : List (String × Json)} (later : List Clause)
    {value : Json} (member : value ∈ pairs.map Prod.snd) :
    ∃ clause ∈ equalities pairs ++ later, clause.value? = some value := by
  obtain ⟨pair, included, rfl⟩ := List.mem_map.1 member
  exact ⟨.equality pair.1 pair.2,
    List.mem_append_left _ (List.mem_map.2 ⟨pair, included, rfl⟩), rfl⟩

/-- The keys of a state hold nothing but the values of the clauses and the ends of key order. -/
theorem Shape.component_of_hasKey (shape : Shape clauses state) {key : List Json}
    (given : state.scan.HasKey key) {component : Json} (member : component ∈ key) :
    component = lowest ∨ component = highest ∨
      ∃ clause ∈ clauses, clause.value? = some component := by
  -- Each state has its keys from the values of its equalities, with one component more at the end.
  cases shape with
  | equal pairs =>
    cases pairs with
    | nil => rcases given with given | given | given <;> cases given
    | cons pair pairs =>
      rcases given with given | given | given <;> cases given
      obtain ⟨clause, included, value⟩ := value_of_mem_equalities [] member
      exact .inr (.inr ⟨clause, by rwa [List.append_nil] at included, value⟩)
  | ordered pairs before field direction =>
    have ends : key = pairs.map Prod.snd ++ [lowest] ∨ key = pairs.map Prod.snd ++ [highest] := by
      cases direction <;> rcases given with given | given | given <;> cases given <;> simp
    rcases ends with rfl | rfl <;> rcases List.mem_append.1 member with fixed | final
    · exact .inr (.inr (value_of_mem_equalities _ fixed))
    · exact .inl (List.mem_singleton.1 final)
    · exact .inr (.inr (value_of_mem_equalities _ fixed))
    · exact .inr (.inl (List.mem_singleton.1 final))
  | lower pairs field value =>
    have own : ∃ clause ∈ equalities pairs ++ [.range field .lower value],
        clause.value? = some value := ⟨.range field .lower value, by simp, rfl⟩
    rcases given with given | given | given <;> cases given <;>
      rcases List.mem_append.1 member with fixed | final
    · exact .inr (.inr (value_of_mem_equalities _ fixed))
    · exact .inr (.inr (List.mem_singleton.1 final ▸ own))
    · exact .inr (.inr (value_of_mem_equalities _ fixed))
    · exact .inr (.inl (List.mem_singleton.1 final))
  | upper pairs field value =>
    have own : ∃ clause ∈ equalities pairs ++ [.range field .upper value],
        clause.value? = some value := ⟨.range field .upper value, by simp, rfl⟩
    rcases given with given | given | given <;> cases given <;>
      rcases List.mem_append.1 member with fixed | final
    · exact .inr (.inr (value_of_mem_equalities _ fixed))
    · exact .inl (List.mem_singleton.1 final)
    · exact .inr (.inr (value_of_mem_equalities _ fixed))
    · exact .inr (.inr (List.mem_singleton.1 final ▸ own))

/-- The keys of a state can be read back if the values of the clauses can. -/
theorem Shape.isReadable (shape : Shape clauses state)
    (readable : ∀ clause ∈ clauses, ∀ value, clause.value? = some value →
      value.isWhole = true ∧ value.depth ≤ 126) : state.scan.IsReadable := by
  -- The ends of key order are whole and flat themselves, so only the values of the clauses matter.
  intro key given
  refine Scan.readable_array fun component member => ?_
  rcases shape.component_of_hasKey given member with rfl | rfl | ⟨clause, included, value⟩
  · decide
  · decide
  · exact readable clause included component value

/-- Equalities ask for no direction. -/
theorem filterMap_direction?_equalities (pairs : List (String × Json)) :
    (equalities pairs).filterMap Clause.direction? = [] := by
  refine List.filterMap_eq_nil_iff.2 fun clause member => ?_
  obtain ⟨pair, _, rfl⟩ := List.mem_map.1 member
  rfl

/-- The scan is read from its end exactly if the last order descends. -/
theorem Shape.descending_scan (shape : Shape clauses state) :
    state.scan.descending = decide (lastDirection? clauses = some .descending) := by
  -- Only orders ask for a direction, and the last one of them counts.
  unfold lastDirection?
  cases shape with
  | equal pairs =>
    rw [filterMap_direction?_equalities]
    cases pairs <;> rfl
  | ordered pairs before field direction =>
    have last : (orders (before ++ [(field, direction)])).filterMap Clause.direction? =
        (before.map Prod.snd) ++ [direction] := by
      simp [orders, List.filterMap_map, Function.comp_def, Clause.direction?]
    rw [List.filterMap_append, filterMap_direction?_equalities, last]
    cases direction <;> simp [KeyState.scan]
  | lower pairs field value =>
    rw [List.filterMap_append, filterMap_direction?_equalities]
    rfl
  | upper pairs field value =>
    rw [List.filterMap_append, filterMap_direction?_equalities]
    rfl

/-- The range of a state selects the rows that the clauses ask for. -/
theorem Shape.select_range (shape : Shape clauses state) (includeDocs : Bool)
    (limit : Option UInt64) {rows : List Json}
    (shaped : ∀ row ∈ rows, ∃ components, rowKey row = .array components ∧
      components.length = clauses.length)
    (bounded : ∀ row ∈ rows, Bounded clauses (keyComponents row)) :
    ({ state.scan with includeDocs, limit } : Scan).range.select rows =
      selectRows clauses limit (sortRows rows) := by
  -- Neither the documents nor the limit bear on which keys lie in the range.
  have kept : (sortRows rows).filter (fun row => state.scan.range.contains (rowKey row)) =
      (sortRows rows).filter fun row => admitsAll clauses (keyComponents row) := by
    refine List.filter_congr fun row member => ?_
    have seeded : row ∈ rows := (stablySorted_sortRows rows).perm.subset member
    obtain ⟨components, key, same⟩ := shaped row seeded
    have own : keyComponents row = components := by rw [keyComponents, key]
    have free := bounded row seeded
    rw [own] at free
    rw [key, own, shape.contains_range same free]
  have descends : state.scan.range.descending =
      decide (lastDirection? clauses = some .descending) := shape.descending_scan
  have split : ({ state.scan with includeDocs, limit } : Scan).range.select rows =
      (let held := (sortRows rows).filter fun row => state.scan.range.contains (rowKey row)
      let directed := if state.scan.range.descending then held.reverse else held
      match limit with
      | some limit => directed.take limit.toNat
      | none => directed) := rfl
  rw [split, kept, descends]
  simp only [decide_eq_true_eq, selectRows]

end Compiled

/--
A query of a view that is there is answered with the rows that it asks for.

The rows are sorted by key, those that a clause does not admit are left out, the last order gives the
direction, and the limit cuts the end off.
-/
theorem answer_query {query : Query} {request : ViewRequest} (built : query.request? = .ok request)
    (readable : ∀ clause ∈ query.plan.clauses, ∀ value, clause.value? = some value →
      value.isWhole = true ∧ value.depth ≤ 126)
    {store : MemoryStore} {rows : List Json}
    (present : store.viewExists (dropTrailing '/' query.plan.container) query.viewName = true)
    (seeded : store.rows.get? query.viewName = some rows)
    (shaped : ∀ row ∈ rows, ∃ components, rowKey row = .array components ∧
      components.length = query.plan.clauses.length)
    (bounded : ∀ row ∈ rows, Bounded query.plan.clauses (keyComponents row))
    (below : BoundsBelow query.plan.clauses) :
    ∃ sorted, (∀ other, StablySorted rows other ↔ other = sorted) ∧
      (store.answer (.queryView request.path request.query)).1 =
        .ok ⟨200, .ofMembers [("total_rows", .ofCount rows.length), ("offset", .ofCount 0),
          ("rows", .array (selectRows query.plan.clauses query.plan.limit sorted))]⟩ := by
  -- There is one stable order of the rows, and the store sorts them in it.
  obtain ⟨path, state, shape, text⟩ := Query.of_request? built
  have one : ∀ other, StablySorted rows other ↔ other = sortRows rows := by
    intro other
    constructor
    · intro stable
      exact stable.unique (stablySorted_sortRows rows)
    · rintro rfl
      exact stablySorted_sortRows rows
  refine ⟨sortRows rows, one, ?_⟩
  -- The text of the query is read back as the range that the clauses compile to.
  have read : KeyRange.ofQuery? request.query = .ok (Scan.range { state.scan with
      includeDocs := query.plan.includeDocs, limit := query.plan.limit }) := by
    rw [text]
    exact Scan.ofQuery?_queryString (shape.isReadable readable) (shape.isReversed_range below)
  have reply : (store.answer (.queryView request.path request.query)).1 =
      .ok (store.viewReply request.path request.query) := rfl
  rw [reply, MemoryStore.viewReply, path, splitViewPath?_viewPath]
  simp only [present, if_true, seeded, Option.getD_some, MemoryStore.answerRows, read,
    shape.select_range _ _ shaped bounded]

/-- A query of the two oldest users of one name. -/
def oldestAnn : Query where
  plan := {
    documentType := "user"
    container := "_design/app/"
    limit := some 2
    clauses := [.equality "name" (.string "Ann"), .order "age" .descending] }
  retryBudget := 3

/-- The row of a user. -/
def userRow (id name : String) (age : Nat) : Json :=
  .ofMembers [("id", .string id), ("key", .array [.string name, .ofCount age])]

/-- The key of a user's row tells the name and the age. -/
theorem rowKey_userRow (id name : String) (age : Nat) :
    rowKey (userRow id name age) = .array [.string name, .ofCount age] := by
  simp [rowKey, userRow, Json.ofMembers, Json.get?, Table.ofList, Entries.get?_insert]

/-- The rows of four users, two of them alike. -/
def userRows : List Json :=
  [userRow "a" "Ann" 31, userRow "b" "Bob" 40, userRow "c" "Ann" 29, userRow "d" "Ann" 31]

/-- A store that has the view of these users. -/
def userStore : MemoryStore where
  documents := Table.ofList [("_design/app", .ofMembers [
    ("views", .ofMembers [("QC-user-name-age", .null)])])]
  rows := Table.ofList [("QC-user-name-age", userRows)]

/-- The two oldest users of one name are found. -/
theorem answer_query_oldest :
    ∃ request, oldestAnn.request? = .ok request ∧
      ∃ sorted, (∀ other, StablySorted userRows other ↔ other = sorted) ∧
        (userStore.answer (.queryView request.path request.query)).1 =
          .ok ⟨200, .ofMembers [("total_rows", .ofCount 4), ("offset", .ofCount 0),
            ("rows", .array (selectRows oldestAnn.plan.clauses (some 2) sorted))]⟩ := by
  -- The clauses hold a name and no bound, and every key of the rows is a name and an age.
  have built : ∃ request, oldestAnn.request? = .ok request := ⟨_, rfl⟩
  obtain ⟨request, built⟩ := built
  have name : oldestAnn.viewName = "QC-user-name-age" := by decide
  have container : dropTrailing '/' oldestAnn.plan.container = "_design/app" := by decide
  have present : userStore.viewExists (dropTrailing '/' oldestAnn.plan.container)
      oldestAnn.viewName = true := by
    rw [name, container]
    decide
  have seeded : userStore.rows.get? oldestAnn.viewName = some userRows := by
    rw [name]
    decide
  have readable : ∀ clause ∈ oldestAnn.plan.clauses, ∀ value, clause.value? = some value →
      value.isWhole = true ∧ value.depth ≤ 126 := by
    intro clause member value given
    simp only [oldestAnn, List.mem_cons, List.not_mem_nil, or_false] at member
    rcases member with rfl | rfl
    · cases given
      decide
    · cases given
  have users : ∀ row ∈ userRows, ∃ id name age, row = userRow id name age := by
    intro row member
    simp only [userRows, List.mem_cons, List.not_mem_nil, or_false] at member
    rcases member with rfl | rfl | rfl | rfl <;> exact ⟨_, _, _, rfl⟩
  have shaped : ∀ row ∈ userRows, ∃ components, rowKey row = .array components ∧
      components.length = oldestAnn.plan.clauses.length := by
    intro row member
    obtain ⟨id, name, age, rfl⟩ := users row member
    exact ⟨_, rowKey_userRow id name age, rfl⟩
  have bounded : ∀ row ∈ userRows, Bounded oldestAnn.plan.clauses (keyComponents row) := by
    intro row member position opened component found
    obtain ⟨id, name, age, rfl⟩ := users row member
    cases opened
    rw [keyComponents, rowKey_userRow] at found
    cases found
    rintro ⟨members, ⟨⟩⟩
  have below : BoundsBelow oldestAnn.plan.clauses := by
    intro field value member
    simp [oldestAnn] at member
  exact ⟨request, built, answer_query built readable present seeded shaped bounded below⟩

end DocView
