import DocView.Proofs.Json.Depth
import DocView.Proofs.QueryString
import DocView.Store.Memory

/-!
The query string of a scan selects the range that the scan describes, up to the floats in its keys.
A key that nests too deep is what keeps a query string from being read, and nothing else does.
-/

namespace DocView

/-- A range, unless it ends before it starts. -/
def KeyRange.forward? (range : KeyRange) : Except KeyRangeError KeyRange :=
  if range.isReversed then .error (.reversed range.descending) else .ok range

/-- A query string is read through its parameters, unless their range is reversed. -/
theorem KeyRange.ofQuery?_render {parameters : List (String × String)} (some : parameters ≠ [])
    (plain : ∀ parameter ∈ parameters, QueryString.IsPlain parameter.1) :
    KeyRange.ofQuery? (QueryString.render parameters) =
      (parameters.foldlM KeyRange.extend {} >>= KeyRange.forward?) := by
  rw [KeyRange.ofQuery?, QueryString.parse_render some plain]
  rfl

namespace Scan

/-- The range of keys that a scan describes. -/
def range (scan : Scan) : KeyRange where
  key := scan.key.map .array
  startKey := scan.startKey.map .array
  endKey := scan.endKey.map .array
  descending := scan.descending
  limit := scan.limit

/-- A scan as it is read back from its query string. -/
def reread (scan : Scan) : Scan :=
  { scan with
    key := scan.key.map Json.rereadItems
    startKey := scan.startKey.map Json.rereadItems
    endKey := scan.endKey.map Json.rereadItems }

/-- Whether a key nests no deeper than a text may. -/
def IsShallow (key : List Json) : Prop := (Json.array key).depth ≤ Json.depthLimit

instance (key : List Json) : Decidable (IsShallow key) :=
  inferInstanceAs (Decidable ((Json.array key).depth ≤ Json.depthLimit))

/-- A key is shallow if its values are, for its list adds one level around them. -/
theorem isShallow_iff {key : List Json} : IsShallow key ↔ ∀ value ∈ key, value.depth ≤ 126 := by
  rw [IsShallow, Json.depth, Json.depthLimit, ← Json.depthItems_le_iff]
  omega

/-- A key of values that can be read back can be read back. -/
theorem readable_array {key : List Json}
    (each : ∀ item ∈ key, item.isWhole = true ∧ item.depth ≤ 126) :
    (Json.array key).isWhole = true ∧ IsShallow key := by
  rw [Json.isWhole]
  exact ⟨Json.isWholeItems_iff.2 fun item member => (each item member).1,
    isShallow_iff.2 fun item member => (each item member).2⟩

/-- A key is one of the three that a scan may have. -/
def HasKey (scan : Scan) (key : List Json) : Prop :=
  scan.key = some key ∨ scan.startKey = some key ∨ scan.endKey = some key

/-- Whether the keys of a scan can be read back from their texts. -/
def IsReadable (scan : Scan) : Prop :=
  ∀ key, scan.HasKey key → (Json.array key).isWhole = true ∧ IsShallow key

/-- A scan without floats is read back as it is. -/
theorem reread_of_isReadable {scan : Scan} (readable : scan.IsReadable) : scan.reread = scan := by
  -- Whole values are read back unchanged, and the keys hold no others.
  have same : ∀ option : Option (List Json), (∀ key, option = some key → scan.HasKey key) →
      option.map Json.rereadItems = option := by
    intro option among
    cases option with
    | none => rfl
    | some key =>
      obtain ⟨whole, _⟩ := readable key (among key rfl)
      exact congrArg some (Json.rereadItems_of_isWhole key whole)
  rw [reread, same scan.key fun key given => .inl given,
    same scan.startKey fun key given => .inr (.inl given),
    same scan.endKey fun key given => .inr (.inr given)]

/-- A key that is shallow is read back from its text. -/
theorem readKey_keyText {name : String} {key : List Json} (shallow : IsShallow key) :
    KeyRange.readKey name (keyText key) = .ok (.array (Json.rereadItems key)) := by
  rw [KeyRange.readKey, keyText, Json.parse_text shallow]
  rfl

/-- Whether a query string is refused because a key nests too deep. -/
def RefusedAsTooDeep {α : Type} (result : Except KeyRangeError α) : Prop :=
  ∃ name place, result = .error (.badKey name ⟨.tooDeep, place⟩)

/-- What comes after a key that is refused is not taken up. -/
theorem RefusedAsTooDeep.bind {α β : Type} {result : Except KeyRangeError α}
    (refused : RefusedAsTooDeep result) (next : α → Except KeyRangeError β) :
    RefusedAsTooDeep (result >>= next) := by
  obtain ⟨name, place, rfl⟩ := refused
  exact ⟨name, place, rfl⟩

/-- A key that nests too deep is refused. -/
theorem readKey_tooDeep {name : String} {key : List Json} (deep : ¬IsShallow key) :
    RefusedAsTooDeep (KeyRange.readKey name (keyText key)) := by
  obtain ⟨place, refused⟩ := Json.parse_text_tooDeep (Nat.lt_of_not_le deep)
  refine ⟨name, place, ?_⟩
  rw [KeyRange.readKey, keyText, refused]
  rfl

/-- A parameter that may be left out is taken up if it is there. -/
theorem foldlM_extend_optional {α : Type} {option : Option α} {parameter : α → String × String}
    {range result : KeyRange} (absent : option = none → result = range)
    (step : ∀ value, option = some value → range.extend (parameter value) = .ok result) :
    (option.map parameter).toList.foldlM KeyRange.extend range = .ok result := by
  -- A parameter is given once or not at all.
  cases option with
  | none =>
    rw [absent rfl]
    rfl
  | some value =>
    have taken := step value rfl
    simp only [Option.map_some, Option.toList_some, List.foldlM_cons, taken]
    rfl

section Keys

variable {name : String} {option : Option (List Json)} {range : KeyRange}

/-- A key that may be left out is taken up if it is there, and is read back from its text. -/
theorem foldlM_extend_key (put : Option Json → KeyRange) (left : put none = range)
    (takes : ∀ text, range.extend (name, text) =
      (KeyRange.readKey name text >>= fun key => pure (put (some key))))
    (shallow : ∀ key, option = some key → IsShallow key) :
    (option.map fun key => (name, keyText key)).toList.foldlM KeyRange.extend range =
      .ok (put ((option.map Json.rereadItems).map .array)) := by
  refine foldlM_extend_optional (fun absent => ?_) fun key given => ?_
  · rw [absent]
    exact left
  · rw [takes, readKey_keyText (shallow key given), given]
    rfl

end Keys

/-- What stands before the keys is taken up as the limit. -/
theorem foldlM_extend_limit (scan : Scan) :
    ([("reduce", Json.truthText scan.reduce), ("include_docs", Json.truthText scan.includeDocs)] ++
      (scan.limit.map fun limit => ("limit", toString limit.toNat)).toList).foldlM
        KeyRange.extend {} = .ok { limit := scan.limit } := by
  -- The two fixed parameters leave the range alone, and the limit is read back from its digits.
  have fixed : [("reduce", Json.truthText scan.reduce),
      ("include_docs", Json.truthText scan.includeDocs)].foldlM KeyRange.extend {} =
        .ok ({} : KeyRange) := rfl
  rw [List.foldlM_append, fixed]
  refine foldlM_extend_optional (fun absent => by rw [absent]) fun limit given => ?_
  simp only [KeyRange.extend, numeral?_toString, given]

/-- The parameters of a scan are taken up as the range that it describes. -/
theorem foldlM_extend_parameters {scan : Scan}
    (shallow : ∀ key, scan.HasKey key → IsShallow key) :
    scan.parameters.foldlM KeyRange.extend {} = .ok scan.reread.range := by
  -- The parameters are taken up in their order, each of them beside those before it.
  have key : (scan.key.map fun key => ("key", keyText key)).toList.foldlM
      KeyRange.extend { limit := scan.limit } =
        .ok { limit := scan.limit, key := scan.reread.key.map .array } :=
    foldlM_extend_key (fun key => { limit := scan.limit, key }) rfl (fun _ => rfl)
      fun key given => shallow key (.inl given)
  have startKey : (scan.startKey.map fun key => ("startkey", keyText key)).toList.foldlM
      KeyRange.extend { limit := scan.limit, key := scan.reread.key.map .array } =
        .ok { limit := scan.limit, key := scan.reread.key.map .array,
              startKey := scan.reread.startKey.map .array } :=
    foldlM_extend_key
      (fun startKey => { limit := scan.limit, key := scan.reread.key.map .array, startKey }) rfl
      (fun _ => rfl) fun key given => shallow key (.inr (.inl given))
  have endKey : (scan.endKey.map fun key => ("endkey", keyText key)).toList.foldlM
      KeyRange.extend { limit := scan.limit, key := scan.reread.key.map .array,
                        startKey := scan.reread.startKey.map .array } =
        .ok { limit := scan.limit, key := scan.reread.key.map .array,
              startKey := scan.reread.startKey.map .array,
              endKey := scan.reread.endKey.map .array } :=
    foldlM_extend_key
      (fun endKey => { limit := scan.limit, key := scan.reread.key.map .array,
                       startKey := scan.reread.startKey.map .array, endKey }) rfl
      (fun _ => rfl) fun key given => shallow key (.inr (.inr given))
  have descending : [("descending", Json.truthText scan.descending)].foldlM KeyRange.extend
      { limit := scan.limit, key := scan.reread.key.map .array,
        startKey := scan.reread.startKey.map .array, endKey := scan.reread.endKey.map .array } =
        .ok scan.reread.range := by
    cases order : scan.descending <;>
      simp [range, reread, order, KeyRange.extend, Json.truthText]
  rw [parameters, List.foldlM_append, List.foldlM_append, List.foldlM_append, List.foldlM_append,
    foldlM_extend_limit]
  simp only [key, startKey, endKey, bind, Except.bind]
  exact descending

/-- Parameters are refused if one of them is, and each of the others is taken up or refused so too. -/
theorem foldlM_extend_refused {parameters : List (String × String)} (range : KeyRange)
    (each : ∀ parameter ∈ parameters, ∀ range : KeyRange,
      (∃ next, range.extend parameter = .ok next) ∨ RefusedAsTooDeep (range.extend parameter))
    (one : ∃ parameter ∈ parameters, ∀ range : KeyRange,
      RefusedAsTooDeep (range.extend parameter)) :
    RefusedAsTooDeep (parameters.foldlM KeyRange.extend range) := by
  -- The range that is reached so far does not matter, so it stays open in the induction.
  induction parameters generalizing range with
  | nil =>
    obtain ⟨parameter, absent, _⟩ := one
    cases absent
  | cons parameter others ih =>
    rw [List.foldlM_cons]
    rcases each parameter List.mem_cons_self range with ⟨next, taken⟩ | refused
    · rw [taken]
      refine ih next (fun other member => each other (List.mem_cons_of_mem _ member)) ?_
      -- What was taken up is not the one that is refused.
      obtain ⟨bad, member, refuses⟩ := one
      rcases List.mem_cons.1 member with rfl | behind
      · obtain ⟨name, place, refused⟩ := refuses range
        rw [taken] at refused
        cases refused
      · exact ⟨bad, behind, refuses⟩
    · exact refused.bind _

section Extend

variable {name : String} {key : List Json}

/-- A key is taken up by reading its text. -/
theorem extend_keyText (named : name = "key" ∨ name = "startkey" ∨ name = "endkey")
    (key : List Json) (range : KeyRange) : ∃ put : Json → KeyRange, range.extend (name, keyText key) =
      (KeyRange.readKey name (keyText key) >>= fun read => pure (put read)) := by
  rcases named with rfl | rfl | rfl <;> exact ⟨_, rfl⟩

/-- A key that nests too deep is refused when it is taken up. -/
theorem extend_tooDeep (named : name = "key" ∨ name = "startkey" ∨ name = "endkey")
    (deep : ¬IsShallow key) (range : KeyRange) :
    RefusedAsTooDeep (range.extend (name, keyText key)) := by
  obtain ⟨put, taken⟩ := extend_keyText named key range
  rw [taken]
  exact (readKey_tooDeep deep).bind _

/-- A key is taken up or refused because it nests too deep. -/
theorem extend_key (named : name = "key" ∨ name = "startkey" ∨ name = "endkey")
    (range : KeyRange) : (∃ next, range.extend (name, keyText key) = .ok next) ∨
      RefusedAsTooDeep (range.extend (name, keyText key)) := by
  by_cases shallow : IsShallow key
  · obtain ⟨put, taken⟩ := extend_keyText named key range
    rw [readKey_keyText shallow] at taken
    exact .inl ⟨_, taken⟩
  · exact .inr (extend_tooDeep named shallow range)

end Extend

/-- The parameters of a scan are refused if one of its keys nests too deep. -/
theorem foldlM_extend_parameters_tooDeep {scan : Scan} {key : List Json} (given : scan.HasKey key)
    (deep : ¬IsShallow key) :
    RefusedAsTooDeep (scan.parameters.foldlM KeyRange.extend {}) := by
  -- No parameter is refused for another reason, and the deep key is among them.
  refine foldlM_extend_refused _ (fun parameter member range => ?_) ?_
  · -- Only the keys can be refused: all other parameters are texts of their own kind.
    simp only [parameters, List.mem_append, List.mem_cons, List.not_mem_nil, or_false,
      Option.mem_toList, Option.map_eq_some_iff] at member
    rcases member with (((((rfl | rfl) | ⟨limit, _, rfl⟩) | ⟨_, _, rfl⟩) | ⟨_, _, rfl⟩) |
      ⟨_, _, rfl⟩) | rfl
    · exact .inl ⟨_, rfl⟩
    · exact .inl ⟨_, rfl⟩
    · refine .inl ⟨{ range with limit := some limit }, ?_⟩
      simp only [KeyRange.extend, numeral?_toString]
    · exact extend_key (.inl rfl) range
    · exact extend_key (.inr (.inl rfl)) range
    · exact extend_key (.inr (.inr rfl)) range
    · exact .inl ⟨_, rfl⟩
  · rcases given with given | given | given
    · exact ⟨("key", keyText key), by simp [parameters, given], extend_tooDeep (.inl rfl) deep⟩
    · exact ⟨("startkey", keyText key), by simp [parameters, given],
        extend_tooDeep (.inr (.inl rfl)) deep⟩
    · exact ⟨("endkey", keyText key), by simp [parameters, given],
        extend_tooDeep (.inr (.inr rfl)) deep⟩

/-- The query string of a scan is taken apart into the parameters of the scan. -/
theorem ofQuery?_eq (scan : Scan) :
    KeyRange.ofQuery? scan.queryString =
      (scan.parameters.foldlM KeyRange.extend {} >>= fun range =>
        if range.isReversed then .error (.reversed range.descending) else .ok range) :=
  -- Whether the view is to be reduced is always told, so the string is not the empty one.
  KeyRange.ofQuery?_render (by simp [parameters]) scan.isPlain_of_mem_parameters

/-- The query string of a scan is read unless the range that is read ends before it starts. -/
theorem ofQuery?_reread {scan : Scan} (shallow : ∀ key, scan.HasKey key → IsShallow key)
    (forward : scan.reread.range.isReversed = false) :
    KeyRange.ofQuery? scan.queryString = .ok scan.reread.range := by
  simp only [ofQuery?_eq, foldlM_extend_parameters shallow, bind, Except.bind, forward]
  rfl

/-- The query string of a scan selects the range that the scan describes. -/
theorem ofQuery?_queryString {scan : Scan} (readable : scan.IsReadable)
    (forward : scan.range.isReversed = false) :
    KeyRange.ofQuery? scan.queryString = .ok scan.range := by
  have same := reread_of_isReadable readable
  have shallow : ∀ key, scan.HasKey key → IsShallow key := fun key given => (readable key given).2
  have read := ofQuery?_reread shallow
  rw [same] at read
  exact read forward

/-- The query string of a scan is refused if one of its keys nests too deep. -/
theorem ofQuery?_tooDeep (scan : Scan) {key : List Json} (given : scan.HasKey key)
    (deep : ¬IsShallow key) : RefusedAsTooDeep (KeyRange.ofQuery? scan.queryString) := by
  rw [ofQuery?_eq]
  exact (foldlM_extend_parameters_tooDeep given deep).bind _

/--
What a scan asks for is read back from its query string.

Its keys hold no floats and nest at most 126 levels, for the list around their components is one
level more. Where both ends of a range are given, the first of them in reading order is not behind
the other one.
-/
theorem keyRange_queryString {scan : Scan}
    (shallow : ∀ key, scan.key = some key ∨ scan.startKey = some key ∨ scan.endKey = some key →
      ∀ component ∈ key, component.isWhole = true ∧ component.depth ≤ 126)
    (forward : ∀ start stop, scan.startKey = some start → scan.endKey = some stop →
      (Json.array start).collate (.array stop) ≠ if scan.descending then .lt else .gt) :
    KeyRange.ofQuery? scan.queryString = .ok {
      key := scan.key.map .array
      startKey := scan.startKey.map .array
      endKey := scan.endKey.map .array
      descending := scan.descending
      limit := scan.limit } := by
  -- Every key can be read back, and then only a reversed range could still be refused.
  have readable : scan.IsReadable := fun key given => readable_array (shallow key given)
  refine ofQuery?_queryString readable ?_
  -- A range is reversed only if both of its ends are there.
  cases start : scan.startKey with
  | none => simp [KeyRange.isReversed, range, start]
  | some startKey =>
    cases stop : scan.endKey with
    | none => simp [KeyRange.isReversed, range, start, stop]
    | some endKey =>
      have ordered := forward startKey endKey start stop
      simpa [KeyRange.isReversed, range, start, stop] using ordered

/-- A value that nests so many levels. -/
def nested : Nat → Json
  | 0 => .string "&é\"=\u0007"
  | levels + 1 => .array [nested levels]

/-- A scan from the end of a view, down to a key as deep as one may be. -/
def deepScan : Scan where
  startKey := some [.ofUInt64 0xffffffffffffffff, .ofMembers [("b", .bool false), ("a", .null)]]
  endKey := some [.ofUInt64 0xffffffffffffffff, nested 126]
  descending := true
  limit := some 0xffffffffffffffff

/-- The deepest key and the greatest numbers are read back. -/
theorem keyRange_queryString_deep :
    KeyRange.ofQuery? deepScan.queryString = .ok {
      key := none
      startKey := deepScan.startKey.map .array
      endKey := deepScan.endKey.map .array
      descending := true
      limit := some 0xffffffffffffffff } := by
  -- Both bounds are as deep as can be read, and the range descends.
  refine keyRange_queryString ?_ ?_
  · rintro key (given | given | given)
    · cases given
    · cases given
      decide +kernel
    · cases given
      decide +kernel
  · rintro start stop ⟨⟩ ⟨⟩
    decide +kernel

end Scan

end DocView
