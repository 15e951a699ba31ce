/-! Finite maps from texts, kept in ascending key order so that each map has one representation. -/

namespace DocView

/-- A key may follow `low` when it is greater, and any key may come first. -/
def Follows (low : Option String) (key : String) : Prop :=
  -- With no earlier key there is nothing to be greater than.
  ∀ earlier ∈ low, earlier < key

instance (low : Option String) (key : String) : Decidable (Follows low key) :=
  inferInstanceAs (Decidable (∀ earlier ∈ low, earlier < key))

/-- Any key may come first. -/
theorem follows_none (key : String) : Follows none key := by
  intro earlier absent
  simp at absent

/-- A key follows an earlier key exactly when it is greater. -/
theorem follows_some {earlier key : String} : Follows (some earlier) key ↔ earlier < key := by
  simp [Follows]

/-- A key greater than one that follows `low` follows `low` as well. -/
theorem Follows.trans {low : Option String} {middle key : String}
    (follows : Follows low middle) (below : middle < key) : Follows low key :=
  fun earlier member => String.lt_trans (follows earlier member) below

/-- Of two different keys, the one that is not below lies above. -/
theorem above_of_not_below {held key : String} (notBelow : ¬key < held) (differ : held ≠ key) :
    held < key :=
  Std.lt_of_le_of_ne (String.not_lt.1 notBelow) differ

/-- Entries in ascending key order, all of them after `low`. -/
inductive Entries (α : Type) : Option String → Type where
  /-- No entry is left. -/
  | nil {low : Option String} : Entries α low
  /-- The entry with the least key, and the entries after it. -/
  | cons {low : Option String} (key : String) (follows : Follows low key) (value : α)
      (rest : Entries α (some key)) : Entries α low

/-- A finite map from texts. -/
abbrev Table (α : Type) := Entries α none

namespace Entries

variable {α : Type} {low : Option String}

instance : EmptyCollection (Entries α low) := ⟨.nil⟩

instance : Inhabited (Entries α low) := ⟨.nil⟩

/-- The entries as pairs, in ascending key order. -/
def toList {low : Option String} : Entries α low → List (String × α)
  | .nil => []
  | .cons key _ value rest => (key, value) :: rest.toList

/-- The number of entries. -/
def size {low : Option String} : Entries α low → Nat
  | .nil => 0
  | .cons _ _ _ rest => rest.size + 1

/-- The value stored under a key. -/
def get? {low : Option String} : Entries α low → String → Option α
  | .nil, _ => none
  | .cons held _ value rest, key => if held = key then some value else rest.get? key

/-- Whether a key is stored. -/
def contains (entries : Entries α low) (key : String) : Bool :=
  (entries.get? key).isSome

/-- Stores a value under a key that may follow `low`, replacing the value held there before. -/
def insertAfter {low : Option String} (key : String) (follows : Follows low key) (value : α) :
    Entries α low → Entries α low
  -- Past the last key there is nothing to keep the order with.
  | .nil => .cons key follows value .nil
  | .cons held heldFollows heldValue rest =>
    -- The keys ascend, so the place is before the first key that is greater.
    if before : key < held then
      .cons key follows value (.cons held (follows_some.2 before) heldValue rest)
    else if same : held = key then
      .cons held heldFollows value rest
    else
      .cons held heldFollows heldValue
        (insertAfter key (follows_some.2 (above_of_not_below before same)) value rest)

/-- Lets entries that follow a key start after an earlier one. -/
def weaken {middle : String} (follows : Follows low middle) : Entries α (some middle) → Entries α low
  | .nil => .nil
  | .cons key above value rest => .cons key (follows.trans (follows_some.1 above)) value rest

/-- Stores a value under a key, replacing the value held there before. -/
def insert (table : Entries α none) (key : String) (value : α) : Table α :=
  table.insertAfter key (follows_none key) value

/-- Removes a key. -/
def erase {low : Option String} (key : String) : Entries α low → Entries α low
  | .nil => .nil
  | .cons held follows value rest =>
    -- No key is stored twice, so the search ends at the first hit.
    if held = key then rest.weaken follows else .cons held follows value (rest.erase key)

/-- Two tables are compared entry by entry. -/
def decEq [DecidableEq α] {low : Option String} :
    (left right : Entries α low) → Decidable (left = right)
  | .nil, .nil => isTrue rfl
  | .nil, .cons .. => isFalse nofun
  | .cons .., .nil => isFalse nofun
  | .cons key _ value rest, .cons otherKey _ otherValue otherRest =>
    if sameKey : key = otherKey then
      match decEq rest (sameKey ▸ otherRest) with
      | isTrue sameRest =>
        if sameValue : value = otherValue then
          isTrue (by subst sameKey; subst sameRest; rw [sameValue])
        else isFalse (by simp [sameValue])
      | isFalse differ => isFalse (by subst sameKey; intro same; cases same; exact differ rfl)
    else isFalse (by simp [sameKey])

instance [DecidableEq α] : DecidableEq (Entries α low) := decEq

/-- A key that does not follow the lower end is not stored. -/
theorem get?_eq_none_of_not_follows {low : Option String} (entries : Entries α low) {key : String}
    (outside : ¬Follows low key) : entries.get? key = none := by
  -- The keys ascend, so a key that does not follow the lower end follows no later key either.
  induction entries with
  | nil => rfl
  | cons held follows value rest ih =>
    have differ : held ≠ key := fun same => outside (same ▸ follows)
    have beyond : ¬Follows (some held) key := fun above =>
      outside (follows.trans (follows_some.1 above))
    simp [get?, differ, ih beyond]

/-- Nothing is stored where there is no entry. -/
@[simp] theorem get?_empty {low : Option String} (key : String) :
    (∅ : Entries α low).get? key = none :=
  rfl

/-- Starting the same entries earlier changes no value. -/
@[simp] theorem get?_weaken {middle : String} (follows : Follows low middle)
    (entries : Entries α (some middle)) (key : String) :
    (entries.weaken follows).get? key = entries.get? key := by
  cases entries <;> rfl

/-- Storing a value changes the value under its key and no other. -/
theorem get?_insertAfter {low : Option String} (key : String) (follows : Follows low key)
    (value : α) (entries : Entries α low) (wanted : String) :
    (entries.insertAfter key follows value).get? wanted =
      if key = wanted then some value else entries.get? wanted := by
  -- The walk passes the keys that lie below, so a hit is before, at or behind the place it stops
  -- at.
  induction entries with
  | nil => simp [insertAfter, get?]
  | cons held heldFollows heldValue rest ih =>
    simp only [insertAfter]
    split
    · simp [get?]
    · split
      · rename_i same
        subst same
        by_cases hit : held = wanted <;> simp [get?, hit]
      · rename_i differ
        by_cases hit : held = wanted
        · have missed : key ≠ wanted := fun same => differ (hit.trans same.symm)
          simp [get?, hit, missed]
        · simp [get?, hit, ih]

/-- Storing a value changes the value under its key and no other. -/
theorem get?_insert (table : Entries α none) (key : String) (value : α) (wanted : String) :
    (table.insert key value).get? wanted =
      if key = wanted then some value else table.get? wanted :=
  get?_insertAfter key (follows_none key) value table wanted

/-- Removing a key removes its value and no other. -/
theorem get?_erase {low : Option String} (key : String) (entries : Entries α low)
    (wanted : String) :
    (entries.erase key).get? wanted = if key = wanted then none else entries.get? wanted := by
  -- The walk stops at the first hit, and no later entry has the same key.
  induction entries with
  | nil => simp [erase, get?]
  | cons held follows value rest ih =>
    simp only [erase]
    split
    · rename_i same
      subst same
      by_cases hit : held = wanted
      · -- The entries behind a key all lie above it, so the key is gone with its entry.
        subst hit
        have beyond : ¬Follows (some held) held := by simp [follows_some]
        simp [get?_eq_none_of_not_follows rest beyond]
      · simp [get?, hit]
    · rename_i differ
      by_cases hit : held = wanted
      · have missed : key ≠ wanted := fun same => differ (hit.trans same.symm)
        simp [get?, hit, missed]
      · simp [get?, hit, ih]

/-- Entries that hold the same value under every key are the same. -/
theorem ext_get? {low : Option String} {left right : Entries α low}
    (agree : ∀ key, left.get? key = right.get? key) : left = right := by
  -- The first keys agree, so do their values, and the rest holds the same under every other key.
  induction left with
  | nil =>
    cases right with
    | nil => rfl
    | cons key follows value rest => simpa [get?] using agree key
  | cons held follows value rest ih =>
    cases right with
    | nil => simpa [get?] using agree held
    | cons otherHeld otherFollows otherValue otherRest =>
      -- Each first key is stored on the other side, so neither can lie below the other.
      have same : held = otherHeld := by
        refine Classical.byContradiction fun differ => ?_
        by_cases below : held < otherHeld
        · have here := agree held
          have beyond : ¬Follows (some otherHeld) held := fun above =>
            String.lt_asymm below (follows_some.1 above)
          simp [get?, Ne.symm differ, get?_eq_none_of_not_follows otherRest beyond] at here
        · have here := agree otherHeld
          have beyond : ¬Follows (some held) otherHeld := fun above => below (follows_some.1 above)
          simp [get?, differ, get?_eq_none_of_not_follows rest beyond] at here
      subst same
      have sameValue : value = otherValue := by simpa [get?] using agree held
      subst sameValue
      have sameRest : rest = otherRest := ih fun key => by
        by_cases hit : held = key
        · subst hit
          have beyond : ¬Follows (some held) held := by simp [follows_some]
          rw [get?_eq_none_of_not_follows rest beyond, get?_eq_none_of_not_follows otherRest beyond]
        · simpa [get?, hit] using agree key
      rw [sameRest]

/-- Storing the entries of a map over another one hides what that one holds under their keys. -/
theorem get?_foldl_toList {low : Option String} (entries : Entries α low)
    (table : Table α) (key : String) :
    (entries.toList.foldl (fun table pair => table.insert pair.1 pair.2) table).get? key =
      (entries.get? key).or (table.get? key) := by
  -- The first entry is stored, and the others are stored over it.
  induction entries generalizing table with
  | nil => simp [toList, get?]
  | cons held follows value rest ih =>
    simp only [toList, List.foldl_cons, ih, get?_insert, get?]
    by_cases hit : held = key
    · -- The entries behind a key all lie above it, so none of them hides the value again.
      have beyond : ¬Follows (some held) key := by simp [follows_some, hit]
      rw [get?_eq_none_of_not_follows rest beyond]
      simp [hit]
    · simp [hit]

end Entries

namespace Table

variable {α : Type}

/-- The map of a list of pairs, where the last pair of a key wins. -/
def ofList (pairs : List (String × α)) : Table α :=
  pairs.foldl (fun table pair => table.insert pair.1 pair.2) ∅

/-- The map of the entries of a map is that map. -/
theorem ofList_toList (table : Table α) : ofList table.toList = table := by
  refine Entries.ext_get? fun key => ?_
  rw [ofList, Entries.get?_foldl_toList, Entries.get?_empty, Option.or_none]

end Table

end DocView
