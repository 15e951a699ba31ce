import DocView.Proofs.Refusal

/-!
A range of a view is one segment of its rows in key order, and the range that is read from the other
end is the same segment read backwards.
-/

namespace DocView

section Sorted

variable {α : Type} {holds : α → Bool} {items : List α}

/-- If what holds of an item holds of the later ones, the items it holds of come last. -/
theorem filter_eq_dropWhile_of_rising
    (rising : items.Pairwise fun earlier later => holds earlier = true → holds later = true) :
    items.filter holds = items.dropWhile fun item => !holds item := by
  -- The items before the first one that it holds of are left out one by one.
  induction items with
  | nil => rfl
  | cons item items ih =>
    obtain ⟨head, tail⟩ := List.pairwise_cons.1 rising
    by_cases here : holds item = true
    · -- From that item on, nothing is left out.
      have all : (item :: items).filter holds = item :: items :=
        List.filter_eq_self.2 fun other member => by
          rcases List.mem_cons.1 member with rfl | behind
          · exact here
          · exact head other behind here
      rw [all, List.dropWhile_cons_of_neg (by simp [here])]
    · rw [List.filter_cons_of_neg here, List.dropWhile_cons_of_pos (by simp [here]), ih tail]

/-- If what holds of an item holds of the earlier ones, the items it holds of come first. -/
theorem filter_eq_takeWhile_of_falling
    (falling : items.Pairwise fun earlier later => holds later = true → holds earlier = true) :
    items.filter holds = items.takeWhile holds := by
  -- The items before the first one that it does not hold of are kept one by one.
  induction items with
  | nil => rfl
  | cons item items ih =>
    obtain ⟨head, tail⟩ := List.pairwise_cons.1 falling
    by_cases here : holds item = true
    · rw [List.filter_cons_of_pos here, List.takeWhile_cons_of_pos here, ih tail]
    · -- From that item on, everything is left out.
      have none : items.filter holds = [] :=
        List.filter_eq_nil_iff.2 fun other member behind => here (head other member behind)
      rw [List.filter_cons_of_neg here, none, List.takeWhile_cons_of_neg here]

end Sorted

/-- Whether a key comes no later than another one, in the direction that the rows are read. -/
def Precedes (descending : Bool) (first second : Json) : Prop :=
  first.collate second ≠ if descending then .lt else .gt

instance (descending : Bool) (first second : Json) : Decidable (Precedes descending first second) :=
  inferInstanceAs (Decidable (first.collate second ≠ if descending then .lt else .gt))

/-- Read the other way, the keys change places. -/
theorem precedes_not {descending : Bool} {first second : Json} :
    Precedes (!descending) first second ↔ Precedes descending second first := by
  -- Swapping the sides swaps the outcome, and the other direction forbids the swapped outcome.
  rw [Precedes, Precedes, Json.collate_swap first second]
  cases descending <;> cases first.collate second <;> decide

namespace KeyRange

/-- Whether a key equals the one of a range, or lies from its start to its end as it is read. -/
def Holds (range : KeyRange) (key : Json) : Prop :=
  match range.key with
  | some exact => key.collate exact = .eq
  | none =>
    (∀ start ∈ range.startKey, Precedes range.descending start key) ∧
      ∀ stop ∈ range.endKey, Precedes range.descending key stop

/-- Whether a key is let in by the floor of a range, which is its least key or the exact one. -/
def reaches (range : KeyRange) (key : Json) : Bool :=
  (range.key.or range.low).all fun low => key.collate low != .lt

/-- Whether a key is let in by the ceiling of a range, which is its greatest key or the exact one. -/
def stays (range : KeyRange) (key : Json) : Bool :=
  (range.key.or range.high).all fun high => key.collate high != .gt

section Contains

variable {range : KeyRange} {key later : Json}

/-- A key is selected if it lies in the range, and only then. -/
theorem contains_iff : range.contains key = true ↔ range.Holds key := by
  -- A key of its own settles the matter, and otherwise the two ends do.
  obtain ⟨exact, startKey, endKey, descending, limit⟩ := range
  cases exact with
  | some exact => simp [contains, Holds]
  | none =>
    -- The start is compared from the side of the key, so its outcome is swapped.
    have turned (bound : Json) : Precedes descending bound key ↔ Precedes (!descending) key bound :=
      precedes_not.symm
    simp only [Holds, turned]
    cases descending <;>
      simp [contains, low, high, Precedes, Option.all_eq_true, and_comm]

instance : Decidable (range.Holds key) := decidable_of_iff _ contains_iff

/-- A key is selected if both the floor and the ceiling let it in. -/
theorem contains_eq (range : KeyRange) (key : Json) :
    range.contains key = (range.stays key && range.reaches key) := by
  -- To equal the exact key is to come neither before it nor behind it.
  unfold contains stays reaches
  cases range.key with
  | none => exact Bool.and_comm ..
  | some exact =>
    dsimp only [Option.some_or, Option.all_some]
    cases key.collate exact <;> rfl

/-- What comes behind a key that the floor lets in is let in by the floor. -/
theorem reaches_of_ne_gt (before : key.collate later ≠ .gt) (reached : range.reaches key = true) :
    range.reaches later = true := by
  -- If the later key were below the floor, the earlier one would be below it too.
  refine (Option.all_eq_true ..).2 fun low given => bne_iff_ne.2 fun below => ?_
  have above := bne_iff_ne.1 ((Option.all_eq_true ..).1 reached low given)
  exact above (Std.TransCmp.lt_of_isLE_of_lt (Ordering.isLE_iff_ne_gt.2 before) below)

/-- What comes before a key that the ceiling lets in is let in by the ceiling. -/
theorem stays_of_ne_gt (before : key.collate later ≠ .gt) (stayed : range.stays later = true) :
    range.stays key = true := by
  refine (Option.all_eq_true ..).2 fun high given => bne_iff_ne.2 ?_
  have under := bne_iff_ne.1 ((Option.all_eq_true ..).1 stayed high given)
  exact Ordering.isLE_iff_ne_gt.1 (Std.TransCmp.isLE_trans (Ordering.isLE_iff_ne_gt.2 before)
    (Ordering.isLE_iff_ne_gt.2 under))

end Contains

section Segment

variable {sorted : List Json}

/-- The rows of a range stand together in key order. -/
theorem exists_segment (range : KeyRange) (ascending : Ascending sorted) : ∃ before behind,
    sorted = before ++ (sorted.filter fun row => range.contains (rowKey row)) ++ behind := by
  -- The rows that reach the range are the last ones, and the first of these are those that stay.
  have reached : sorted.filter (fun row => range.reaches (rowKey row)) =
      sorted.dropWhile fun row => !range.reaches (rowKey row) :=
    filter_eq_dropWhile_of_rising (ascending.imp fun before => reaches_of_ne_gt before)
  have stayed : (sorted.filter fun row => range.reaches (rowKey row)).filter
      (fun row => range.stays (rowKey row)) =
        (sorted.filter fun row => range.reaches (rowKey row)).takeWhile
          fun row => range.stays (rowKey row) :=
    filter_eq_takeWhile_of_falling
      ((ascending.filter _).imp fun before => stays_of_ne_gt before)
  have held : (sorted.filter fun row => range.contains (rowKey row)) =
      (sorted.dropWhile fun row => !range.reaches (rowKey row)).takeWhile
        fun row => range.stays (rowKey row) := by
    rw [← reached, ← stayed, List.filter_filter]
    simp only [contains_eq]
  refine ⟨sorted.takeWhile fun row => !range.reaches (rowKey row),
    (sorted.dropWhile fun row => !range.reaches (rowKey row)).dropWhile
      fun row => range.stays (rowKey row), ?_⟩
  rw [held, List.append_assoc, List.takeWhile_append_dropWhile, List.takeWhile_append_dropWhile]

end Segment

/-- The range that is read from the other end. -/
def mirror (range : KeyRange) : KeyRange :=
  { range with startKey := range.endKey, endKey := range.startKey, descending := !range.descending }

section Mirror

variable (range : KeyRange)

/-- A range and its mirror select the same keys. -/
theorem contains_mirror (key : Json) : range.mirror.contains key = range.contains key := by
  -- Swapping the ends and the direction leaves the least and the greatest key as they are.
  obtain ⟨exact, startKey, endKey, descending, limit⟩ := range
  cases descending <;> rfl

/-- A range ends before it starts exactly if its mirror does. -/
theorem isReversed_mirror : range.mirror.isReversed = range.isReversed := by
  -- Only a range with both of its ends can be reversed.
  obtain ⟨exact, startKey, endKey, descending, limit⟩ := range
  cases startKey with
  | none => cases endKey <;> rfl
  | some start =>
    cases endKey with
    | none => rfl
    | some stop =>
      -- Both the keys and the outcome that is refused are swapped.
      simp only [isReversed, mirror]
      rw [Json.collate_swap start stop]
      cases descending <;> cases start.collate stop <;> rfl

/-- Without a limit, the mirror of a range selects the same rows in reverse. -/
theorem select_mirror (unlimited : range.limit = none) (rows : List Json) :
    range.mirror.select rows = (range.select rows).reverse := by
  -- The same rows are held, so only the direction in which they are read differs.
  have free : range.mirror.limit = none := unlimited
  have turned : range.mirror.descending = !range.descending := rfl
  simp only [select, contains_mirror, free, unlimited, turned]
  cases range.descending <;> simp

end Mirror

/-- The range from one key to another one. -/
def between (start stop : Json) : KeyRange := { startKey := some start, endKey := some stop }

section Between

variable (low high : String)

/-- The query string from one key to another one asks for the range between them. -/
theorem ofQuery?_between :
    ofQuery? (QueryString.render [("startkey", low), ("endkey", high)]) =
      (readKey "startkey" low >>= fun start => readKey "endkey" high >>= fun stop =>
        (between start stop).forward?) := by
  rw [ofQuery?_render (by simp) (by unfold QueryString.IsPlain; simp; decide)]
  simp only [List.foldlM_cons, List.foldlM_nil, extend, bind_assoc, pure_bind]
  rfl

/-- The query string from the second key down to the first one asks for the mirror of that range. -/
theorem ofQuery?_between_mirror :
    ofQuery? (QueryString.render [("startkey", high), ("endkey", low), ("descending", "true")]) =
      (readKey "startkey" high >>= fun stop => readKey "endkey" low >>= fun start =>
        (between start stop).mirror.forward?) := by
  rw [ofQuery?_render (by simp) (by unfold QueryString.IsPlain; simp; decide)]
  simp only [List.foldlM_cons, List.foldlM_nil, extend, bind_assoc, pure_bind]
  rfl

end Between

/-- The rows of a range as they are answered: in its direction, and up to its limit. -/
def arrange (range : KeyRange) (rows : List Json) : List Json :=
  let directed := if range.descending then rows.reverse else rows
  match range.limit with
  | some limit => directed.take limit.toNat
  | none => directed

end KeyRange

/-- The reply that brings rows out of so many. -/
def rowsReply (total : Nat) (rows : List Json) : Reply :=
  ⟨200, .ofMembers [("total_rows", .ofCount total), ("offset", .ofCount 0), ("rows", .array rows)]⟩

/-- How the answers to a range and to the same range from its other end hang together. -/
inductive Mirrored (total : Nat) : Answer → Answer → Prop where
  /-- Both are refused. -/
  | refused (reason other : String) :
    Mirrored total (.ok (refusal reason)) (.ok (refusal other))
  /-- Both bring the same rows, the second one in reverse. -/
  | answered (rows : List Json) :
    Mirrored total (.ok (rowsReply total rows)) (.ok (rowsReply total rows.reverse))

/-- How a view with rows that have an order answers to query strings. -/
structure ScansInOrder (ask : String → Answer) (rows sorted : List Json) : Prop where
  /-- A query string that is read is answered with one segment of the order, which is its range. -/
  segment : ∀ query range, KeyRange.ofQuery? query = .ok range → ∃ before segment behind,
    sorted = before ++ segment ++ behind ∧
      segment.Perm (rows.filter fun row => range.Holds (rowKey row)) ∧
      ask query = .ok (rowsReply rows.length (range.arrange segment))
  /-- A range from its other end is answered with the same rows in reverse, or refused as well. -/
  mirrored : ∀ low high : String, Mirrored rows.length
    (ask (QueryString.render [("startkey", low), ("endkey", high)]))
    (ask (QueryString.render [("startkey", high), ("endkey", low), ("descending", "true")]))

section Read

variable {rows sorted : List Json}

/-- The rows that a range selects are its segment of the rows in key order. -/
theorem StablySorted.exists_segment (stable : StablySorted rows sorted) (range : KeyRange) :
    ∃ before segment behind, sorted = before ++ segment ++ behind ∧
      segment.Perm (rows.filter fun row => range.Holds (rowKey row)) ∧
      range.select rows = range.arrange segment := by
  -- The keys of a range lie together in key order, and so do the rows that have them.
  obtain ⟨before, behind, parts⟩ := range.exists_segment stable.ascending
  refine ⟨before, _, behind, parts, ?_, ?_⟩
  · -- Sorting moves the rows of the range about, and brings or drops none.
    have kept := stable.perm.filter fun row => range.contains (rowKey row)
    have same : (fun row => range.contains (rowKey row)) =
        fun row => decide (range.Holds (rowKey row)) := by
      funext row
      exact Bool.eq_iff_iff.2 (KeyRange.contains_iff.trans decide_eq_true_iff.symm)
    rwa [← same]
  · rw [stable.unique (stablySorted_sortRows rows)]
    rfl

end Read

namespace MemoryStore

/-- A range and the same range from its other end are answered alike, or both are refused. -/
theorem mirrored (rows : List Json) (low high : String) : Mirrored rows.length
    (.ok (answerRows rows (QueryString.render [("startkey", low), ("endkey", high)])))
    (.ok (answerRows rows
      (QueryString.render [("startkey", high), ("endkey", low), ("descending", "true")]))) := by
  -- Both query strings are read into mirrored ranges, or both are refused.
  have forward := KeyRange.ofQuery?_between low high
  have backward := KeyRange.ofQuery?_between_mirror low high
  generalize QueryString.render [("startkey", low), ("endkey", high)] = up at forward ⊢
  generalize QueryString.render [("startkey", high), ("endkey", low), ("descending", "true")] =
    down at backward ⊢
  have refused {error other : KeyRangeError} (here : KeyRange.ofQuery? up = .error error)
      (there : KeyRange.ofQuery? down = .error other) :
      Mirrored rows.length (.ok (answerRows rows up)) (.ok (answerRows rows down)) := by
    rw [answerRows_of_error rows here, answerRows_of_error rows there]
    exact .refused _ _
  simp only [KeyRange.readKey] at forward backward
  -- A bound that is not JSON is refused from either side, though not always for the same reason.
  cases first : Json.parse low with
  | error error =>
    rw [first] at forward backward
    cases second : Json.parse high with
    | error other =>
      rw [second] at backward
      exact refused forward backward
    | ok stop =>
      rw [second] at backward
      exact refused forward backward
  | ok start =>
    rw [first] at forward backward
    cases second : Json.parse high with
    | error other =>
      rw [second] at forward backward
      exact refused forward backward
    | ok stop =>
      rw [second] at forward backward
      replace forward : KeyRange.ofQuery? up = (KeyRange.between start stop).forward? := forward
      replace backward : KeyRange.ofQuery? down = (KeyRange.between start stop).mirror.forward? :=
        backward
      rw [KeyRange.forward?] at forward backward
      rw [KeyRange.isReversed_mirror] at backward
      cases turned : (KeyRange.between start stop).isReversed with
      | true =>
        rw [turned] at forward backward
        exact refused forward backward
      | false =>
        rw [turned] at forward backward
        rw [answerRows_of_range rows forward, answerRows_of_range rows backward,
          KeyRange.select_mirror _ rfl]
        exact .answered _

/--
A view answers a range with one segment of its rows in key order, and a mirrored range in reverse.

The rows are any rows of a view that is there, with keys of any kind or without a key. There is one
way to sort them stably. A query string that is read selects exactly the rows that lie in its range;
they stand together in that order, are read backwards where that is asked for, and are cut off at the
limit. A range that is asked for from its other end is refused exactly if the range itself is.
-/
theorem scansInOrder {store : MemoryStore} {path design name : String} {rows : List Json}
    (addressed : splitViewPath? path = some (design, name))
    (present : store.viewExists design name = true)
    (seeded : (store.rows.get? name).getD [] = rows) :
    ∃ sorted, (∀ other, StablySorted rows other ↔ other = sorted) ∧
      ScansInOrder (fun query => (store.answer (.queryView path query)).1) rows sorted := by
  -- Whatever the query string is, the answer is that of the rows to it.
  have asked : (fun query => (store.answer (.queryView path query)).1) =
      fun query => .ok (answerRows rows query) := by
    funext query
    rw [← seeded]
    exact congrArg Except.ok (viewReply_of_present addressed present query)
  rw [asked]
  refine ⟨sortRows rows, fun other => stablySorted_iff, ?_, ?_⟩
  · intro query range read
    obtain ⟨before, segment, behind, parts, held, selected⟩ :=
      (stablySorted_sortRows rows).exists_segment range
    refine ⟨before, segment, behind, parts, held, ?_⟩
    rw [answerRows_of_range rows read, selected]
    rfl
  · intro low high
    exact mirrored rows low high

/-- The rows of four users are scanned in the order of their names and ages. -/
theorem scansInOrder_users :
    splitViewPath? "_design/app/_view/QC-user-name-age" = some ("_design/app", "QC-user-name-age") ∧
      ∃ sorted, (∀ other, StablySorted userRows other ↔ other = sorted) ∧
        ScansInOrder (fun query => (userStore.answer
          (.queryView "_design/app/_view/QC-user-name-age" query)).1) userRows sorted := by
  -- The path leads to the view, and its rows are those that were seeded.
  have addressed : splitViewPath? "_design/app/_view/QC-user-name-age" =
      some ("_design/app", "QC-user-name-age") := by
    decide
  have present : userStore.viewExists "_design/app" "QC-user-name-age" = true := by decide
  have seeded : (userStore.rows.get? "QC-user-name-age").getD [] = userRows := by decide
  exact ⟨addressed, scansInOrder addressed present seeded⟩

end MemoryStore

end DocView
