import DocView.Proofs.Json.Collation
import DocView.Proofs.KeyRange
import DocView.Proofs.Scan

/-!
The range of a scan selects exactly the keys that every clause admits at its own position, whatever
the ends of key order stand for in the range.
-/

namespace DocView

/-- Whether a clause admits a component of a key. -/
def Clause.admits : Clause → Json → Bool
  | .equality _ value, component => component.collate value = .eq
  | .range _ .lower value, component => component.collate value != .lt
  | .range _ .upper value, component => component.collate value != .gt
  -- An order constrains nothing.
  | .order .., _ => true

/-- Whether each clause admits the component at its position. -/
def admitsAll (clauses : List Clause) (components : List Json) : Bool :=
  (clauses.zip components).all fun pair => pair.1.admits pair.2

/-- Whether a clause leaves its component open above. -/
def Clause.isOpenAbove : Clause → Bool
  | .range _ .lower _ => true
  | .order .. => true
  | _ => false

/-- Whether no component stands above the end of key order that a scan fills in for it. -/
def Bounded (clauses : List Clause) (components : List Json) : Prop :=
  ∀ position, clauses.findIdx? Clause.isOpenAbove = some position →
    ∀ component, components[position]? = some component → ¬component.IsObject

/-- Whether no lower bound stands above the end of key order that a scan fills in for it. -/
def BoundsBelow (clauses : List Clause) : Prop :=
  ∀ field value, .range field .lower value ∈ clauses → ¬value.IsObject

section Ends

variable {component : Json}

/-- No value comes before the lowest one. -/
theorem collate_lowest_ne (component : Json) : component.collate lowest ≠ .lt := by
  -- Null is of the lowest kind.
  cases component with
  | null => decide
  | _ =>
    rw [Json.collate_of_rank_gt (by simp [Json.rank, lowest])]
    decide

/-- A value that is no object comes before the highest one. -/
theorem collate_highest (free : ¬component.IsObject) : component.collate highest = .lt := by
  -- Objects are of the highest kind.
  cases component with
  | object members => exact absurd ⟨members, rfl⟩ free
  | _ => exact Json.collate_of_rank_lt (by simp [Json.rank, highest])

/-- Two bounds that differ in their last parts alone hold exactly if the parts before are equal. -/
theorem then_between (front low high : Ordering) :
    ((front.then low != .lt) && (front.then high != .gt)) =
      (decide (front = .eq) && ((low != .lt) && (high != .gt))) := by
  cases front <;> simp [Ordering.then]

end Ends

section Admits

variable {clauses later : List Clause} {components behind : List Json}

/-- Clauses behind others admit what stands behind the others' components. -/
theorem admitsAll_append (same : clauses.length = components.length) :
    admitsAll (clauses ++ later) (components ++ behind) =
      (admitsAll clauses components && admitsAll later behind) := by
  rw [admitsAll, List.zip_append same, List.all_append]
  rfl

/-- Equalities admit the components that equal their values in key order. -/
theorem admitsAll_equalities (pairs : List (String × Json)) (components : List Json)
    (same : components.length = pairs.length) :
    admitsAll (equalities pairs) components =
      decide (Json.collateItems components (pairs.map Prod.snd) = .eq) := by
  -- Both sides compare value by value, and the first one that differs decides.
  induction pairs generalizing components with
  | nil =>
    cases components with
    | nil => rfl
    | cons component components => cases same
  | cons pair pairs ih =>
    cases components with
    | nil => cases same
    | cons component components =>
      have shorter : components.length = pairs.length := by simpa using same
      have rest := ih components shorter
      have split : admitsAll (equalities (pair :: pairs)) (component :: components) =
          (decide (component.collate pair.2 = .eq) && admitsAll (equalities pairs) components) := rfl
      rw [split, rest]
      simp only [List.map_cons, Json.collateItems]
      cases component.collate pair.2 <;> simp [Ordering.then]

/-- Orders admit everything. -/
theorem admitsAll_orders (pairs : List (String × Direction)) (components : List Json) :
    admitsAll (orders pairs) components = true := by
  -- By induction along both lists: an order admits every component.
  induction pairs generalizing components with
  | nil => rfl
  | cons pair pairs ih =>
    cases components with
    | nil => rfl
    | cons component components => exact ih components

/-- No equality leaves its component open. -/
theorem findIdx?_equalities (pairs : List (String × Json)) {clause : Clause}
    (opens : clause.isOpenAbove = true) (later : List Clause) :
    (equalities pairs ++ clause :: later).findIdx? Clause.isOpenAbove = some pairs.length := by
  -- No equality is open, so the search goes on behind all of them.
  have none_open : (equalities pairs).findIdx? Clause.isOpenAbove = none := by
    refine List.findIdx?_eq_none_iff.2 fun clause member => ?_
    obtain ⟨pair, _, rfl⟩ := List.mem_map.1 member
    rfl
  rw [List.findIdx?_append, none_open, List.findIdx?_cons, if_pos opens]
  simp [equalities]

end Admits

/-- A key with more components than there are equalities is split behind the equal ones. -/
theorem exists_split {pairs : List (String × Json)} {components : List Json} {more : Nat}
    (same : components.length = pairs.length + (more + 1)) :
    ∃ front component back, components = front ++ component :: back ∧
      front.length = pairs.length ∧ back.length = more := by
  -- What is behind the equal components begins with the one in question.
  have rest : (components.drop pairs.length).length = more + 1 := by
    rw [List.length_drop]
    omega
  cases behind : components.drop pairs.length with
  | nil => simp [behind] at rest
  | cons component back =>
    refine ⟨components.take pairs.length, component, back, ?_, ?_, ?_⟩
    · rw [← behind, List.take_append_drop]
    · rw [List.length_take]
      omega
    · simpa [behind] using rest

section Contains

variable {pairs : List (String × Json)} {front back : List Json} {component : Json}

/-- A component that is all there is left is compared by itself. -/
theorem collateItems_singleton (component bound : Json) :
    Json.collateItems [component] [bound] = component.collate bound := by
  simp only [Json.collateItems]
  cases component.collate bound <;> rfl

/-- Nothing that is left of a key comes before the lowest value. -/
theorem collateItems_lowest_ne (component : Json) (back : List Json) :
    Json.collateItems (component :: back) [lowest] ≠ .lt := by
  -- The first component decides unless it is the lowest itself.
  have above := collate_lowest_ne component
  simp only [Json.collateItems]
  cases outcome : component.collate lowest with
  | lt => exact absurd outcome above
  | gt => nofun
  | eq =>
    -- A key that goes on is greater than one that ends.
    cases back <;> nofun

/-- What is left of a key comes before the highest value, if it does not begin with an object. -/
theorem collateItems_highest (free : ¬component.IsObject) (back : List Json) :
    Json.collateItems (component :: back) [highest] = .lt := by
  simp only [Json.collateItems, collate_highest free]
  rfl

/-- Whether a key of some components lies between two others. -/
def between (components low high : List Json) : Bool :=
  (Json.collateItems components low != .lt) && (Json.collateItems components high != .gt)

/-- A key lies between two others that begin alike if it begins so too, and what is left does. -/
theorem between_append (same : front.length = pairs.length) (low high : Json) :
    between (front ++ component :: back) (pairs.map Prod.snd ++ [low])
        (pairs.map Prod.snd ++ [high]) =
      (admitsAll (equalities pairs) front && between (component :: back) [low] [high]) := by
  have lengths : front.length = (pairs.map Prod.snd).length := by simpa using same
  unfold between
  rw [Json.collateItems_append lengths, Json.collateItems_append lengths, then_between,
    admitsAll_equalities pairs front same]

/-- Ends that fit the clauses behind the equalities fit all of them. -/
theorem between_eq_admitsAll {later : List Clause} {low high : Json}
    (same : front.length = pairs.length)
    (own : between (component :: back) [low] [high] = admitsAll later (component :: back)) :
    between (front ++ component :: back) (pairs.map Prod.snd ++ [low])
        (pairs.map Prod.snd ++ [high]) =
      admitsAll (equalities pairs ++ later) (front ++ component :: back) := by
  have lengths : (equalities pairs).length = front.length := by simp [equalities, same]
  rw [admitsAll_append lengths, ← own]
  exact between_append same low high

/-- Any component that is no object lies between the ends of key order, and orders admit it. -/
theorem between_ends (free : ¬component.IsObject) (directions : List (String × Direction)) :
    between (component :: back) [lowest] [highest] =
      admitsAll (orders directions) (component :: back) := by
  rw [between, collateItems_highest free, bne_iff_ne.2 (collateItems_lowest_ne component back),
    admitsAll_orders]
  rfl

/-- A component that is no object lies above a lower bound exactly if the bound admits it. -/
theorem between_lower (free : ¬component.IsObject) (field : String) (value : Json) :
    between [component] [value] [highest] = admitsAll [.range field .lower value] [component] := by
  have own : admitsAll [.range field .lower value] [component] =
      (component.collate value != .lt) := Bool.and_true _
  rw [between, collateItems_highest free, collateItems_singleton, own]
  exact Bool.and_true _

/-- A component lies below an upper bound exactly if the bound admits it. -/
theorem between_upper (component : Json) (field : String) (value : Json) :
    between [component] [lowest] [value] = admitsAll [.range field .upper value] [component] := by
  have own : admitsAll [.range field .upper value] [component] =
      (component.collate value != .gt) := Bool.and_true _
  rw [between, bne_iff_ne.2 (collateItems_lowest_ne component []), collateItems_singleton, own]
  exact Bool.true_and _

end Contains

/-- The range of a state selects the keys that every clause admits at its own position. -/
theorem Shape.contains_range {clauses : List Clause} {state : KeyState} (shape : Shape clauses state)
    {components : List Json} (same : components.length = clauses.length)
    (bounded : Bounded clauses components) :
    state.scan.range.contains (.array components) = admitsAll clauses components := by
  -- The values of the equalities stand before the ends of the component that follows.
  cases shape with
  | equal pairs =>
    have lengths : components.length = pairs.length := by simpa [equalities] using same
    rw [admitsAll_equalities pairs components lengths]
    cases pairs with
    | nil =>
      -- Without clauses the whole view is read, and no key has a component.
      cases components with
      | nil => rfl
      | cons component components => cases lengths
    | cons pair pairs => rfl
  | ordered pairs before field direction =>
    have lengths : components.length = pairs.length + (before.length + 1) := by
      simpa [equalities, orders] using same
    obtain ⟨front, component, back, rfl, fits, _⟩ := exists_split lengths
    -- The first order opens the component at its position.
    obtain ⟨first, others, opened, split⟩ : ∃ first others, first.isOpenAbove = true ∧
        orders (before ++ [(field, direction)]) = first :: others := by
      cases before with
      | nil => exact ⟨_, _, rfl, rfl⟩
      | cons pair before => exact ⟨.order pair.1 pair.2, _, rfl, rfl⟩
    have position := findIdx?_equalities pairs opened others
    rw [← split] at position
    have free := bounded _ position component (by simp [← fits])
    -- Whichever way it is read, the range reaches from the lowest to the highest value.
    have ends : (KeyState.ordered (pairs.map Prod.snd) direction).scan.range.contains
        (.array (front ++ component :: back)) =
        between (front ++ component :: back) (pairs.map Prod.snd ++ [lowest])
          (pairs.map Prod.snd ++ [highest]) := by
      cases direction <;> rfl
    rw [ends]
    exact between_eq_admitsAll fits (between_ends free _)
  | lower pairs field value =>
    have lengths : components.length = pairs.length + (0 + 1) := by simpa [equalities] using same
    obtain ⟨front, component, back, rfl, fits, empty⟩ := exists_split lengths
    obtain rfl := List.eq_nil_of_length_eq_zero empty
    have free := bounded _ (findIdx?_equalities pairs rfl []) component (by simp [← fits])
    exact between_eq_admitsAll fits (between_lower free field value)
  | upper pairs field value =>
    have lengths : components.length = pairs.length + (0 + 1) := by simpa [equalities] using same
    obtain ⟨front, component, back, rfl, fits, empty⟩ := exists_split lengths
    obtain rfl := List.eq_nil_of_length_eq_zero empty
    exact between_eq_admitsAll fits (between_upper component field value)

/-- Whether no lower bound stands behind the end of key order that a scan fills in for it. -/
def BoundsWithin (clauses : List Clause) : Prop :=
  ∀ field value, .range field .lower value ∈ clauses → value.collate highest ≠ .gt

/-- Equalities have no bound at all. -/
theorem boundsWithin_equalities (pairs : List (String × Json)) : BoundsWithin (equalities pairs) := by
  intro field value member
  obtain ⟨pair, _, ⟨⟩⟩ := List.mem_map.1 member

/-- The range of a state does not end before it starts, if no lower bound stands behind the end. -/
theorem Shape.isReversed_range_of_within {clauses : List Clause} {state : KeyState}
    (shape : Shape clauses state) (within : BoundsWithin clauses) :
    state.scan.range.isReversed = false := by
  -- Both ends begin with the same values, so their last components decide.
  have last : ∀ (values : List Json) (start stop : Json),
      (Json.array (values ++ [start])).collate (.array (values ++ [stop])) = start.collate stop := by
    intro values start stop
    have split : (Json.array (values ++ [start])).collate (.array (values ++ [stop])) =
        Json.collateItems (values ++ [start]) (values ++ [stop]) := rfl
    rw [split, Json.collateItems_append rfl, Json.collateItems_self, collateItems_singleton]
    rfl
  cases shape with
  | equal pairs => cases pairs <;> rfl
  | ordered pairs before field direction =>
    cases direction with
    | ascending =>
      have ascends : lowest.collate highest = .lt := rfl
      simp [KeyState.scan, Scan.range, KeyRange.isReversed, last, ascends]
    | descending =>
      have descends : highest.collate lowest = .gt := rfl
      simp [KeyState.scan, Scan.range, KeyRange.isReversed, last, descends]
  | lower pairs field value =>
    have free := within field value (by simp)
    simpa [KeyState.scan, Scan.range, KeyRange.isReversed, last] using free
  | upper pairs field value =>
    have above := collate_lowest_ne value
    rw [Json.collate_swap lowest value] at above
    simp only [KeyState.scan, Scan.range, KeyRange.isReversed, Option.map_some, last,
      Bool.false_eq_true, if_false, decide_eq_false_iff_not]
    intro greater
    rw [greater] at above
    exact above rfl

/-- The range of a state does not end before it starts, if no lower bound is an object. -/
theorem Shape.isReversed_range {clauses : List Clause} {state : KeyState}
    (shape : Shape clauses state) (below : BoundsBelow clauses) :
    state.scan.range.isReversed = false := by
  refine shape.isReversed_range_of_within fun field value member => ?_
  rw [collate_highest (below field value member)]
  decide

end DocView
