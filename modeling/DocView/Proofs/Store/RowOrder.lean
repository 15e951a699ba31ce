import DocView.Proofs.Json.Collation
import DocView.Store.Memory

/-! The rows of a view are sorted by key, and rows of equal keys keep their order. -/

namespace DocView

/-- The rows of one key, in their order. -/
def rowsOf (key : Json) (rows : List Json) : List Json :=
  rows.filter fun row => (rowKey row).collate key = .eq

/-- Whether the keys of rows ascend. -/
def Ascending (rows : List Json) : Prop :=
  rows.Pairwise fun earlier later => (rowKey earlier).collate (rowKey later) ≠ .gt

/-- How rows that are sorted by key hang together with the rows as they were given. -/
structure StablySorted (rows sorted : List Json) : Prop where
  /-- No row comes or goes. -/
  perm : sorted.Perm rows
  /-- The keys ascend. -/
  ascending : Ascending sorted
  /-- The rows of each key keep their order. -/
  stable : ∀ key, rowsOf key sorted = rowsOf key rows

section RowsOf

variable {key row : Json} {rows : List Json}

/-- The rows of a key are those whose key equals it. -/
theorem mem_rowsOf : row ∈ rowsOf key rows ↔ row ∈ rows ∧ (rowKey row).collate key = .eq := by
  simp [rowsOf]

/-- A row of the key comes first if it stands first. -/
theorem rowsOf_cons_of_eq (equal : (rowKey row).collate key = .eq) :
    rowsOf key (row :: rows) = row :: rowsOf key rows := by
  simp [rowsOf, equal]

/-- A row of another key is left out. -/
theorem rowsOf_cons_of_ne (differs : (rowKey row).collate key ≠ .eq) :
    rowsOf key (row :: rows) = rowsOf key rows := by
  simp [rowsOf, differs]

/-- Every row is one of its own key. -/
theorem mem_rowsOf_self (member : row ∈ rows) : row ∈ rowsOf (rowKey row) rows :=
  mem_rowsOf.2 ⟨member, Std.ReflCmp.compare_self⟩

end RowsOf

/-- One row may stand before another one if its key does not come behind the other's. -/
def rowLE (earlier later : Json) : Bool := (rowKey earlier).collate (rowKey later) != .gt

/-- An outcome is not that of a greater left side exactly when the left side may come first. -/
theorem ne_gt_iff_isLE (outcome : Ordering) : (outcome != .gt) = true ↔ outcome.isLE = true := by
  cases outcome <;> decide

/-- The order of rows is transitive. -/
theorem rowLE_trans (first second third : Json) (before : rowLE first second = true)
    (behind : rowLE second third = true) : rowLE first third = true := by
  unfold rowLE at *
  rw [ne_gt_iff_isLE] at *
  exact Std.TransCmp.isLE_trans before behind

/-- Of two rows, one may stand before the other. -/
theorem rowLE_total (left right : Json) : (rowLE left right || rowLE right left) = true := by
  -- Swapping the rows swaps the outcome, which is not greater on both sides.
  unfold rowLE
  rw [Json.collate_swap (rowKey left) (rowKey right)]
  cases (rowKey left).collate (rowKey right) <;> rfl

/-- Rows whose keys equal a third key may stand in either order. -/
theorem rowLE_of_eq {left right key : Json} (here : (rowKey left).collate key = .eq)
    (there : (rowKey right).collate key = .eq) : rowLE left right = true := by
  -- Rows of one key are equal to each other in key order.
  have back : key.collate (rowKey right) = .eq := by
    rw [Json.collate_swap (rowKey right) key, there]
    rfl
  have both : (rowKey left).collate (rowKey right) = .eq := Std.TransCmp.eq_trans here back
  rw [rowLE, both]
  rfl

/-- Two keys that do not come behind each other are equal. -/
theorem collate_eq_of_ne_gt {left right : Json} (up : left.collate right ≠ .gt)
    (down : right.collate left ≠ .gt) : left.collate right = .eq := by
  -- A lesser outcome is a greater one for the swapped keys.
  rw [Json.collate_swap left right] at down
  cases outcome : left.collate right with
  | eq => rfl
  | gt => exact absurd outcome up
  | lt =>
    rw [outcome] at down
    exact absurd rfl down

/-- The first of rows in key order has no key that comes behind that of another one. -/
theorem Ascending.head_ne_gt {first row : Json} {others : List Json}
    (ascending : Ascending (first :: others)) (member : row ∈ first :: others) :
    (rowKey first).collate (rowKey row) ≠ .gt := by
  rcases List.mem_cons.1 member with rfl | behind
  · have itself : (rowKey row).collate (rowKey row) = .eq := Std.ReflCmp.compare_self
    rw [itself]
    nofun
  · exact (List.pairwise_cons.1 ascending).1 row behind

/-- Every row of a list is in another one with the same rows of each key. -/
theorem mem_of_rowsOf_eq {left right : List Json}
    (same : ∀ key, rowsOf key left = rowsOf key right) {row : Json} (member : row ∈ left) :
    row ∈ right := by
  have own := mem_rowsOf_self member
  rw [same] at own
  exact (mem_rowsOf.1 own).1

/-- Two lists in key order with the same rows of each key are one list. -/
theorem Ascending.ext {left right : List Json} (left_ascending : Ascending left)
    (right_ascending : Ascending right) (same : ∀ key, rowsOf key left = rowsOf key right) :
    left = right := by
  -- The heads are shown to be one row, and so on with the tails.
  induction left generalizing right with
  | nil =>
    cases right with
    | nil => rfl
    | cons row rows =>
      cases mem_of_rowsOf_eq (fun key => (same key).symm) (List.mem_cons_self (a := row))
  | cons first others ih =>
    cases right with
    | nil => cases mem_of_rowsOf_eq same (List.mem_cons_self (a := first))
    | cons row rows =>
      -- Each head occurs in the other list, so neither key comes behind the other.
      have first_in : first ∈ row :: rows := mem_of_rowsOf_eq same List.mem_cons_self
      have row_in : row ∈ first :: others :=
        mem_of_rowsOf_eq (fun key => (same key).symm) List.mem_cons_self
      have level : (rowKey first).collate (rowKey row) = .eq :=
        collate_eq_of_ne_gt (left_ascending.head_ne_gt row_in) (right_ascending.head_ne_gt first_in)
      -- Both heads are the first row of that key, so they are one row.
      have heads := same (rowKey row)
      rw [rowsOf_cons_of_eq level, rowsOf_cons_of_eq Std.ReflCmp.compare_self] at heads
      obtain ⟨rfl, _⟩ := List.cons.inj heads
      have rest : ∀ key, rowsOf key others = rowsOf key rows := by
        intro key
        have both := same key
        by_cases equal : (rowKey first).collate key = .eq
        · rw [rowsOf_cons_of_eq equal, rowsOf_cons_of_eq equal] at both
          exact (List.cons.inj both).2
        · rwa [rowsOf_cons_of_ne equal, rowsOf_cons_of_ne equal] at both
      rw [ih (List.Pairwise.of_cons left_ascending) (List.Pairwise.of_cons right_ascending) rest]

/-- There is one way to sort rows stably. -/
theorem StablySorted.unique {rows left right : List Json} (first : StablySorted rows left)
    (second : StablySorted rows right) : left = right :=
  first.ascending.ext second.ascending fun key =>
    (first.stable key).trans (second.stable key).symm

/-- Sorting the rows by key is stable. -/
theorem stablySorted_sortRows (rows : List Json) : StablySorted rows (sortRows rows) := by
  -- That the rows are sorted is known of the merge sort, and its stability is put in terms of keys.
  have perm : (sortRows rows).Perm rows := List.mergeSort_perm rows rowLE
  have pairwise : (sortRows rows).Pairwise fun earlier later => rowLE earlier later = true :=
    List.pairwise_mergeSort rowLE_trans rowLE_total rows
  refine ⟨perm, pairwise.imp fun before => bne_iff_ne.1 before, fun key => ?_⟩
  -- The rows of one key are in order already, so sorting keeps them as they stand.
  have ordered : (rowsOf key rows).Pairwise fun earlier later => rowLE earlier later = true := by
    refine List.pairwise_iff_forall_sublist.2 fun pair => ?_
    have here := mem_rowsOf.1 (pair.subset List.mem_cons_self)
    have there := mem_rowsOf.1 (pair.subset (List.mem_cons_of_mem _ List.mem_cons_self))
    exact rowLE_of_eq here.2 there.2
  have kept : (rowsOf key rows).Sublist (sortRows rows) :=
    List.sublist_mergeSort rowLE_trans rowLE_total ordered List.filter_sublist
  have within : (rowsOf key (rowsOf key rows)).Sublist (rowsOf key (sortRows rows)) :=
    kept.filter _
  have again : rowsOf key (rowsOf key rows) = rowsOf key rows := by
    simp [rowsOf, List.filter_filter]
  rw [again] at within
  exact (within.eq_of_length (perm.filter _).length_eq.symm).symm

/-- Sorting the rows by key is the one stable way to sort them. -/
theorem stablySorted_iff {rows sorted : List Json} :
    StablySorted rows sorted ↔ sorted = sortRows rows := by
  constructor
  · intro stable
    exact stable.unique (stablySorted_sortRows rows)
  · rintro rfl
    exact stablySorted_sortRows rows

end DocView
