import DocView.Proofs.Json.SameValue
import DocView.Proofs.Store.Segment

/-!
What a query for one key selects. Rows of another key are left out as long as binary64 holds the
numbers of both keys, and an integer that it does not hold is taken for its neighbour.
-/

namespace DocView

namespace KeyRange

/-- Every row that a range selects is one of the rows and lies in the range. -/
theorem holds_of_mem_select {range : KeyRange} {rows : List Json} {row : Json}
    (member : row ∈ range.select rows) : row ∈ rows ∧ range.Holds (rowKey row) := by
  -- What is selected lies in the segment of the sorted rows that the range cuts out.
  obtain ⟨before, segment, behind, _, held, same⟩ :=
    (stablySorted_sortRows rows).exists_segment range
  -- Neither the direction nor the limit brings in a row.
  have directed : row ∈ if range.descending then segment.reverse else segment := by
    rw [same, arrange] at member
    split at member
    · exact List.mem_of_mem_take member
    · exact member
  have within : row ∈ segment := by
    split at directed
    · exact List.mem_reverse.1 directed
    · exact directed
  obtain ⟨included, holds⟩ := List.mem_filter.1 (held.subset within)
  exact ⟨included, of_decide_eq_true holds⟩

end KeyRange

namespace MemoryStore

/-- Rows that are selected by a key equal it in key order. -/
theorem exists_selected_of_key {store : MemoryStore} {path design name query : String}
    (addressed : splitViewPath? path = some (design, name))
    (present : store.viewExists design name = true) {range : KeyRange}
    (read : KeyRange.ofQuery? query = .ok range) {key : Json} (asked : range.key = some key) :
    ∃ selected, (store.answer (.queryView path query)).1 =
        .ok (rowsReply ((store.rows.get? name).getD []).length selected) ∧
      ∀ row ∈ selected, row ∈ (store.rows.get? name).getD [] ∧ (rowKey row).collate key = .eq := by
  -- The view is there and the query is read, so the selected rows are those of the range.
  refine ⟨range.select ((store.rows.get? name).getD []), ?_, fun row member => ?_⟩
  · -- The query string is read, so the answer holds what its range selects.
    have replied := viewReply_of_present addressed present query
    rw [answerRows_of_range _ read] at replied
    exact congrArg Except.ok replied
  · -- A range with a key of its own asks for that key alone, whatever its ends are.
    obtain ⟨included, holds⟩ := KeyRange.holds_of_mem_select member
    rw [KeyRange.Holds, asked] at holds
    exact ⟨included, holds⟩

/-- Of the keys that rounding leaves alone, a query for one of them selects no other. -/
theorem exists_selected_of_exact {store : MemoryStore} {path design name query : String}
    (addressed : splitViewPath? path = some (design, name))
    (present : store.viewExists design name = true) {range : KeyRange}
    (read : KeyRange.ofQuery? query = .ok range) {key : Json} (asked : range.key = some key)
    (exact : key.IsExact) :
    ∃ selected, (store.answer (.queryView path query)).1 =
        .ok (rowsReply ((store.rows.get? name).getD []).length selected) ∧
      ∀ row ∈ selected, row ∈ (store.rows.get? name).getD [] ∧
        ((rowKey row).IsExact → (rowKey row).SameValue key) := by
  obtain ⟨selected, answered, equal⟩ := exists_selected_of_key addressed present read asked
  refine ⟨selected, answered, fun row member => ?_⟩
  -- The row equals the key in key order, which for exact numbers means that it is the same value.
  obtain ⟨included, same⟩ := equal row member
  exact ⟨included, fun rowExact => (Json.collate_eq_iff_sameValue rowExact exact).1 same⟩

/--
A query for a key returns no row of another key, if rounding leaves the numbers of both keys alone.

Values of such numbers are equal in key order exactly if they are the same value, where numbers are
compared by their mathematical value. All floats are such numbers, and all integers of 53 bits.
-/
theorem exactKey_selects {key : Json} (exact : key.IsExact) :
    (∀ other : Json, other.IsExact → (other.collate key = .eq ↔ other.SameValue key)) ∧
    ∀ (store : MemoryStore) (path design name query : String) (range : KeyRange),
      splitViewPath? path = some (design, name) → store.viewExists design name = true →
      KeyRange.ofQuery? query = .ok range → range.key = some key →
      ∃ selected, (store.answer (.queryView path query)).1 =
          .ok (rowsReply ((store.rows.get? name).getD []).length selected) ∧
        ∀ row ∈ selected, row ∈ (store.rows.get? name).getD [] ∧
          ((rowKey row).IsExact → (rowKey row).SameValue key) := by
  -- What key order takes for equal is the same value, so what it selects is that value as well.
  refine ⟨fun other otherExact => Json.collate_eq_iff_sameValue otherExact exact, ?_⟩
  intro store path design name query range addressed present read asked
  exact exists_selected_of_exact addressed present read asked exact

/-- Users are selected by name and age. -/
theorem exactKey_selects_users :
    (Json.array [.string "Ann", .ofCount 31]).IsExact ∧
      ∃ selected, (userStore.answer (.queryView "_design/app/_view/QC-user-name-age"
          "key=%5B%22Ann%22%2C31%5D")).1 = .ok (rowsReply 4 selected) ∧
        ∀ row ∈ selected, row ∈ userRows ∧ ((rowKey row).IsExact →
          (rowKey row).SameValue (.array [.string "Ann", .ofCount 31])) := by
  -- The key of the query is exact, and so the rows that come have that very value.
  have exact : (Json.array [.string "Ann", .ofCount 31]).IsExact := by decide +kernel
  have addressed : splitViewPath? "_design/app/_view/QC-user-name-age" =
      some ("_design/app", "QC-user-name-age") := by
    decide
  have present : userStore.viewExists "_design/app" "QC-user-name-age" = true := by decide
  have read : KeyRange.ofQuery? "key=%5B%22Ann%22%2C31%5D" =
      .ok { key := some (.array [.string "Ann", .ofCount 31]) } := by
    decide +kernel
  have seeded : (userStore.rows.get? "QC-user-name-age").getD [] = userRows := by decide
  have found := (exactKey_selects exact).2 userStore _ _ _ _ _ addressed present read rfl
  rw [seeded] at found
  exact ⟨exact, found⟩

/-- Among keys of integers of no more than 53 bits, a query for one of them selects no other. -/
theorem exists_selected_of_small {store : MemoryStore} {path design name query : String}
    (addressed : splitViewPath? path = some (design, name))
    (present : store.viewExists design name = true) {range : KeyRange}
    (read : KeyRange.ofQuery? query = .ok range) {key : Json} (asked : range.key = some key)
    (small : key.HasSmallIntegers)
    (allSmall : ∀ row ∈ (store.rows.get? name).getD [], (rowKey row).HasSmallIntegers) :
    ∃ selected, (store.answer (.queryView path query)).1 =
        .ok (rowsReply ((store.rows.get? name).getD []).length selected) ∧
      ∀ row ∈ selected, row ∈ (store.rows.get? name).getD [] ∧ (rowKey row).SameValue key := by
  -- Small integers are exact, so the key is compared by its value.
  obtain ⟨selected, answered, same⟩ :=
    exists_selected_of_exact addressed present read asked (Json.isExact_of_small small)
  refine ⟨selected, answered, fun row member => ?_⟩
  -- Rounding leaves such integers alone, in the rows as well as in the key.
  obtain ⟨included, equal⟩ := same row member
  exact ⟨included, equal (Json.isExact_of_small (allSmall row included))⟩

/-- The least whole number that binary64 does not hold. -/
def unheld : Json.Number := .integer (2 ^ 53 + 1) (by decide)

/-- The whole number below it, which binary64 holds. -/
def held : Json.Number := .integer (2 ^ 53) (by decide)

/-- The row of the number that binary64 holds. -/
def heldRow : Json := .ofMembers [("key", .array [.number held])]

/-- A store with that row in a view of pages by one field. -/
def heldStore : MemoryStore := pageStore.seedRows "QC-Page-a" [heldRow]

/-- A query for a number that binary64 does not hold returns the row of the number below. -/
theorem exactKey_selects_neighbour :
    (Json.array [.number unheld]).collate (rowKey heldRow) = .eq ∧
      ¬(rowKey heldRow).SameValue (.array [.number unheld]) ∧
      KeyRange.ofQuery? "key=%5B9007199254740993%5D" =
        .ok { key := some (.array [.number unheld]) } ∧
      (heldStore.answer (.queryView "_design/example/_view/QC-Page-a"
        "key=%5B9007199254740993%5D")).1 = .ok (rowsReply 1 [heldRow]) := by
  -- Both integers round to one double, so the order cannot tell them apart.
  refine ⟨by decide +kernel, ?_, by decide +kernel, by decide +kernel⟩
  -- The two keys hold one number each, and these differ by one.
  have key : rowKey heldRow = .array [.number held] := by decide +kernel
  rw [key]
  rintro ⟨same, _⟩
  have values : held.units = unheld.units := same
  exact absurd values (by decide +kernel)

end MemoryStore

end DocView
