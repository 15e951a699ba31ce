import DocView.Proofs.Json.Float
import DocView.Proofs.Json.Quoted

/-!
The text of a value is read back up to its floats, and not at all if the value nests too deep. What
is read in place of a float is a float, and everything else is read as it was written.
-/

namespace DocView.Json

mutual

/-- Whether a value holds no number but whole ones. -/
def isWhole : Json → Bool
  | number (.float _) => false
  | array items => isWholeItems items
  | object members => isWholeMembers members
  | null | bool _ | number (.integer ..) | string _ => true
termination_by structural value => value

/-- Whether items hold no number but whole ones. -/
def isWholeItems : List Json → Bool
  | [] => true
  | item :: items => item.isWhole && isWholeItems items
termination_by structural items => items

/-- Whether members hold no number but whole ones. -/
def isWholeMembers {low : Option String} : Entries Json low → Bool
  | .nil => true
  | .cons _ _ value rest => value.isWhole && isWholeMembers rest
termination_by structural members => members

end

mutual

/-- How deep the lists and objects of a value nest. -/
def depth : Json → Nat
  | array items => depthItems items + 1
  | object members => depthMembers members + 1
  | null | bool _ | number _ | string _ => 0
termination_by structural value => value

/-- How deep the deepest of some items nests. -/
def depthItems : List Json → Nat
  | [] => 0
  | item :: items => max item.depth (depthItems items)
termination_by structural items => items

/-- How deep the deepest of some members nests. -/
def depthMembers {low : Option String} : Entries Json low → Nat
  | .nil => 0
  | .cons _ _ value rest => max value.depth (depthMembers rest)
termination_by structural members => members

end

/-- A number as it is read back: a float may be read as a neighbour. -/
def Number.reread : Number → Number
  | .integer value fits => .integer value fits
  | .float value => .float value.reread

mutual

/-- A value as it is read back. -/
def reread : Json → Json
  | null => null
  | bool value => bool value
  | number value => number value.reread
  | string value => string value
  | array items => array (rereadItems items)
  | object members => object (rereadMembers members)
termination_by structural value => value

/-- Items as they are read back. -/
def rereadItems : List Json → List Json
  | [] => []
  | item :: items => item.reread :: rereadItems items
termination_by structural items => items

/-- Members as they are read back, under the same keys. -/
def rereadMembers {low : Option String} : Entries Json low → Entries Json low
  | .nil => .nil
  | .cons key follows value rest => .cons key follows value.reread (rereadMembers rest)
termination_by structural members => members

end

mutual

/-- A value without floats is read back as it was written. -/
theorem reread_of_isWhole : (value : Json) → value.isWhole = true → value.reread = value
  | .null, _ | .bool _, _ | .number (.integer ..), _ | .string _, _ => rfl
  | .number (.float _), whole => by cases whole
  | .array items, whole => by rw [reread, rereadItems_of_isWhole items whole]
  | .object members, whole => by rw [reread, rereadMembers_of_isWhole members whole]
termination_by structural value => value

/-- Items without floats are read back as they were written. -/
theorem rereadItems_of_isWhole :
    (items : List Json) → isWholeItems items = true → rereadItems items = items
  | [], _ => rfl
  | item :: items, whole => by
    simp only [isWholeItems, Bool.and_eq_true] at whole
    rw [rereadItems, reread_of_isWhole item whole.1, rereadItems_of_isWhole items whole.2]
termination_by structural items => items

/-- Members without floats are read back as they were written. -/
theorem rereadMembers_of_isWhole {low : Option String} : (members : Entries Json low) →
    isWholeMembers members = true → rereadMembers members = members
  | .nil, _ => rfl
  | .cons key follows value members, whole => by
    simp only [isWholeMembers, Bool.and_eq_true] at whole
    rw [rereadMembers, reread_of_isWhole value whole.1, rereadMembers_of_isWhole members whole.2]
termination_by structural members => members

end

/-- Items are read back one by one. -/
theorem rereadItems_eq_map (items : List Json) : rereadItems items = items.map reread := by
  induction items with
  | nil => rfl
  | cons item items ih => rw [rereadItems, ih, List.map_cons]

/-- Items hold no float exactly if none of them does. -/
theorem isWholeItems_iff {items : List Json} :
    isWholeItems items = true ↔ ∀ item ∈ items, item.isWhole = true := by
  induction items with
  | nil => simp [isWholeItems]
  | cons item items ih => simp [isWholeItems, ih]

/-- Items nest no deeper than a bound exactly if none of them does. -/
theorem depthItems_le_iff {items : List Json} {bound : Nat} :
    depthItems items ≤ bound ↔ ∀ item ∈ items, item.depth ≤ bound := by
  induction items with
  | nil => simp [depthItems]
  | cons item items ih => simp only [depthItems, Nat.max_le, ih, List.forall_mem_cons]

/-- Whether a character begins a value and nothing else. -/
def Opens (char : Char) : Prop := isSpace char = false ∧ char ≠ ']' ∧ char ≠ '\x7d'

/-- A digit begins a value. -/
theorem opens_of_isDigit {char : Char} (digit : char.isDigit = true) : Opens char := by
  -- No space, bracket or brace is a digit.
  refine ⟨?_, ?_, ?_⟩
  · cases space : isSpace char with
    | false => rfl
    | true =>
      simp only [isSpace, Bool.or_eq_true, decide_eq_true_eq] at space
      rcases space with ((rfl | rfl) | rfl) | rfl <;> exact absurd digit (by decide)
  · rintro rfl
    exact absurd digit (by decide)
  · rintro rfl
    exact absurd digit (by decide)

/-- The digits of a number begin with a digit. -/
theorem toDigits_eq_cons (value : Nat) :
    ∃ first others, Nat.toDigits 10 value = first :: others ∧ first.isDigit = true := by
  -- No number is written without digits.
  cases digits : Nat.toDigits 10 value with
  | nil => exact absurd digits Nat.toDigits_ne_nil
  | cons first others =>
    have member : first ∈ Nat.toDigits 10 value := by
      rw [digits]
      exact List.mem_cons_self
    exact ⟨first, others, rfl, Nat.isDigit_of_mem_toDigits (by decide) (by decide) member⟩

/-- A number that is read behind its sign begins with a digit. -/
theorem isDigit_of_readNumber {negative : Bool} {chars : List Char} {result : Number × List Char}
    (read : readNumber negative chars = .ok result) :
    ∃ first others, chars = first :: others ∧ first.isDigit = true := by
  -- The reader fails at once on anything but a digit.
  unfold readNumber at read
  split at read
  · cases read
  · exact ⟨'0', _, rfl, by decide⟩
  · split at read
    · rename_i digit
      exact ⟨_, _, rfl, digit⟩
    · cases read

/-- The text of a value begins with a character that opens a value. -/
theorem render_eq_cons (value : Json) :
    ∃ first others, value.render = first :: others ∧ Opens first := by
  -- Each kind of value begins with a character of its own.
  cases value with
  | null => exact ⟨'n', _, rfl, by decide, by decide, by decide⟩
  | bool truth =>
    cases truth
    · exact ⟨'f', _, rfl, by decide, by decide, by decide⟩
    · exact ⟨'t', _, rfl, by decide, by decide, by decide⟩
  | number value =>
    cases value with
    | float value =>
      obtain ⟨first, others, text, digit⟩ := isDigit_of_readNumber
        (value.readNumber_magnitudeText ends_nil)
      rw [List.append_nil] at text
      rw [render, Number.render, Double.render_eq]
      split
      · exact ⟨'-', _, rfl, by decide, by decide, by decide⟩
      · exact ⟨first, others, text, opens_of_isDigit digit⟩
    | integer value fits =>
      cases value with
      | ofNat magnitude =>
        obtain ⟨first, others, digits, digit⟩ := toDigits_eq_cons magnitude
        exact ⟨first, others, digits, opens_of_isDigit digit⟩
      | negSucc below => exact ⟨'-', _, rfl, by decide, by decide, by decide⟩
  | string value => exact ⟨'"', _, rfl, by decide, by decide, by decide⟩
  | array items =>
    cases items
    · exact ⟨'[', _, rfl, by decide, by decide, by decide⟩
    · exact ⟨'[', _, rfl, by decide, by decide, by decide⟩
  | object members =>
    cases members
    · exact ⟨'\x7b', _, rfl, by decide, by decide, by decide⟩
    · exact ⟨'\x7b', _, rfl, by decide, by decide, by decide⟩

section Steps

variable {first : Char} {rest : List Char} {bound : Nat} (readItem : Reader Json)

/-- Nothing is skipped before a character that is no space. -/
theorem skipSpace_cons (solid : isSpace first = false) :
    skipSpace (first :: rest) = first :: rest := by
  simp [skipSpace, solid]

/-- What begins with neither a bracket nor a brace is read as a scalar. -/
theorem readValue_scalar (solid : isSpace first = false) (bracket : first ≠ '[')
    (brace : first ≠ '\x7b') (bound : Nat) :
    readValue bound (first :: rest) = readScalar (first :: rest) := by
  -- Only the two brackets lead anywhere else, whether or not there is depth left.
  cases bound with
  | zero =>
    simp only [readValue, skipSpace_cons solid]
    split
    · exact absurd (List.cons.inj ‹_›).1 bracket
    · exact absurd (List.cons.inj ‹_›).1 brace
    · rfl
  | succ bound =>
    simp only [readValue, skipSpace_cons solid]
    split
    · exact absurd (List.cons.inj ‹_›).1 bracket
    · exact absurd (List.cons.inj ‹_›).1 brace
    · rfl

/-- A list that is not empty begins with its first item. -/
theorem readValue_list (item : Json) (behind : List Char) :
    readValue (bound + 1) ('[' :: (item.render ++ behind)) =
      (do
        let (item, rest) ← readValue bound (item.render ++ behind)
        let (items, rest) ← readItems (readValue bound) (rest.length + 1) rest
        .ok (array (item :: items), rest)) := by
  -- No value begins with the bracket that would end the list.
  obtain ⟨first, others, text, opens⟩ := render_eq_cons item
  have listed : readValue (bound + 1) ('[' :: (item.render ++ behind)) =
      readList (readValue bound) (item.render ++ behind) := rfl
  rw [listed, text, List.cons_append]
  simp only [readList, skipSpace_cons opens.1]
  split
  · exact absurd ‹_› (List.cons_ne_nil _ _)
  · exact absurd (List.cons.inj ‹_›).1 opens.2.1
  · rfl

/-- Behind a comma stands one more item. -/
theorem readItems_cons (item : Json) (behind : List Char) :
    readItems readItem (bound + 1) (',' :: (item.render ++ behind)) =
      (do
        let (item, rest) ← readItem (item.render ++ behind)
        let (items, rest) ← readItems readItem bound rest
        .ok (item :: items, rest)) := by
  -- There are no spaces in the text, so the comma and the value stand where they are looked for.
  obtain ⟨first, others, text, opens⟩ := render_eq_cons item
  have comma : skipSpace (',' :: first :: (others ++ behind)) =
      ',' :: first :: (others ++ behind) := skipSpace_cons (by decide)
  rw [text, List.cons_append]
  simp only [readItems, comma, skipSpace_cons opens.1]
  split
  · exact absurd ‹_› (List.cons_ne_nil _ _)
  · exact absurd (List.cons.inj ‹_›).1 opens.2.1
  · rfl

/-- An object that is not empty begins with the quote of its first key. -/
theorem readValue_object (chars : List Char) :
    readValue (bound + 1) ('\x7b' :: '"' :: chars) =
      (do
        let (first, rest) ← readMember (readValue bound) chars
        let (others, rest) ← readMembers (readValue bound) (rest.length + 1) rest
        .ok (ofMembers (first :: others), rest)) :=
  rfl

/-- Behind a comma stands one more member. -/
theorem readMembers_cons (chars : List Char) :
    readMembers readItem (bound + 1) (',' :: '"' :: chars) =
      (do
        let (first, rest) ← readMember readItem chars
        let (others, rest) ← readMembers readItem bound rest
        .ok (first :: others, rest)) :=
  rfl

end Steps

/-- Neither a comma nor a bracket nor a brace goes on with a number. -/
theorem ends_of_separator {separator : Char} {rest : List Char}
    (separates : separator = ',' ∨ separator = ']' ∨ separator = '\x7d') :
    Ends (separator :: rest) := by
  rintro char ⟨⟩
  rcases separates with rfl | rfl | rfl <;> decide

/-- What follows an item ends it. -/
theorem ends_renderItems (items : List Json) (rest : List Char) :
    Ends (renderItems items ++ rest) := by
  cases items with
  | nil => exact ends_of_separator (.inr (.inl rfl))
  | cons item items => exact ends_of_separator (.inl rfl)

/-- What follows a member ends it. -/
theorem ends_renderMembers {low : Option String} (members : Entries Json low) (rest : List Char) :
    Ends (renderMembers members ++ rest) := by
  cases members with
  | nil => exact ends_of_separator (.inr (.inr rfl))
  | cons key follows value members => exact ends_of_separator (.inl rfl)

/-- Each item behind the first one takes at least one character. -/
theorem length_lt_renderItems (items : List Json) (rest : List Char) :
    items.length < (renderItems items ++ rest).length := by
  induction items with
  | nil => simp [renderItems]
  | cons item items ih =>
    simp only [renderItems, List.length_append, List.length_cons] at ih ⊢
    omega

/-- Each member behind the first one takes at least one character. -/
theorem length_lt_renderMembers {low : Option String} (members : Entries Json low)
    (rest : List Char) : members.toList.length < (renderMembers members ++ rest).length := by
  induction members with
  | nil => simp [renderMembers, Entries.toList]
  | cons key follows value members ih =>
    simp only [renderMembers, Entries.toList, List.length_append, List.length_cons] at ih ⊢
    omega

/-- A digit begins nothing but a number. -/
theorem readValue_digit {first : Char} (digit : first.isDigit = true) (bound : Nat)
    (rest : List Char) :
    readValue bound (first :: rest) =
      (do let (value, rest) ← readNumber false (first :: rest); .ok (number value, rest)) := by
  -- A digit begins neither a list nor an object, so the value is a scalar.
  have bracket : first ≠ '[' := by
    rintro rfl
    exact absurd digit (by decide)
  have brace : first ≠ '\x7b' := by
    rintro rfl
    exact absurd digit (by decide)
  rw [readValue_scalar (opens_of_isDigit digit).1 bracket brace]
  unfold readScalar
  split
  -- None of the characters that begin another value is a digit.
  case h_1 => exact absurd ‹_› (List.cons_ne_nil _ _)
  case h_7 =>
    obtain ⟨rfl, rfl⟩ := List.cons.inj ‹_›
    rw [if_pos digit]
  all_goals
    rename_i same
    obtain ⟨rfl, _⟩ := List.cons.inj same
    exact absurd digit (by decide)

/-- Behind a minus sign stands a number. -/
theorem readValue_minus (bound : Nat) (rest : List Char) :
    readValue bound ('-' :: rest) =
      (do let (value, rest) ← readNumber true rest; .ok (number value, rest)) :=
  readValue_scalar (by decide) (by decide) (by decide) bound

/-- A number that fits 64 bits stays whole, unless it is a negative zero. -/
theorem finishWhole_of_fits {negative : Bool} {significand : Nat} {value : Int} {rest : List Char}
    (same : (if negative then -(significand : Int) else significand) = value)
    (fits : -2 ^ 63 ≤ value ∧ value < 2 ^ 64) (proper : (negative && significand = 0) = false) :
    finishWhole negative significand rest = .ok (.integer value fits, rest) := by
  subst same
  simp only [finishWhole, dif_pos fits, proper, Bool.false_eq_true, if_false]

/-- A whole number is read back from its digits. -/
theorem readValue_renderInt (value : Int) (fits : -2 ^ 63 ≤ value ∧ value < 2 ^ 64) (bound : Nat)
    {rest : List Char} (ends : Ends rest) :
    readValue bound (renderInt value ++ rest) = .ok (number (.integer value fits), rest) := by
  -- A negative number has the digits of its amount behind the sign.
  cases value with
  | ofNat magnitude =>
    have small : magnitude < 2 ^ 64 := by
      have upper := fits.2
      simp only [Int.ofNat_eq_natCast] at upper
      omega
    obtain ⟨first, others, digits, digit⟩ := toDigits_eq_cons magnitude
    have read := readNumber_toDigits false small ends
    simp only [renderInt]
    rw [digits, List.cons_append] at read ⊢
    have same : (if false = true then -(magnitude : Int) else (magnitude : Int)) =
        Int.ofNat magnitude := rfl
    rw [readValue_digit digit, read, finishWhole_of_fits same fits rfl]
    rfl
  | negSucc below =>
    have small : below + 1 < 2 ^ 64 := by
      have lower := fits.1
      omega
    have read := readNumber_toDigits true small ends
    simp only [renderInt, List.cons_append]
    have not_zero : (true && decide (below + 1 = 0)) = false := by simp
    have same : (if true = true then -((below + 1 : Nat) : Int) else ((below + 1 : Nat) : Int)) =
        Int.negSucc below := rfl
    rw [readValue_minus, read, finishWhole_of_fits same fits not_zero]
    rfl

/-- A member is read back behind the quote that opens its key. -/
theorem readMember_renderString (readItem : Reader Json) (key : String) {chars rest : List Char}
    {value : Json} (read : readItem chars = .ok (value, rest)) :
    readMember readItem (key.toList.flatMap escapeChar ++ '"' :: ':' :: chars) =
      .ok ((key, value), rest) := by
  have colon : skipSpace (':' :: chars) = ':' :: chars := skipSpace_cons (by decide)
  simp only [readMember, readString_flatMap, bind, Except.bind, colon, read]

/-- The text of a float is read as a float. -/
theorem readValue_renderFloat (value : Double) (bound : Nat) {rest : List Char}
    (ends : Ends rest) :
    readValue bound (value.render ++ rest) = .ok (number (.float value.reread), rest) := by
  -- The sign is read on its own, and the magnitude behind it by its layout.
  have read := value.readNumber_magnitudeText ends
  obtain ⟨first, others, text, digit⟩ := isDigit_of_readNumber
    (value.readNumber_magnitudeText ends_nil)
  rw [List.append_nil] at text
  rw [Double.render_eq]
  split
  · rename_i negative
    rw [negative] at read
    rw [List.cons_append, readValue_minus, read]
    rfl
  · rename_i positive
    have sign : value.negative = false := by simpa using positive
    rw [sign, text, List.cons_append] at read
    rw [text, List.cons_append, readValue_digit digit, read]
    rfl

mutual

/-- A value that does not nest too deep is read back, up to what ends it. -/
theorem readValue_render : (value : Json) → {bound : Nat} → value.depth ≤ bound →
    {rest : List Char} → Ends rest →
      readValue bound (value.render ++ rest) = .ok (value.reread, rest)
  | .null, bound, _, rest, _ => by
    simp only [render, List.cons_append, List.nil_append]
    rw [readValue_scalar (by decide) (by decide) (by decide)]
    rfl
  | .bool true, bound, _, rest, _ => by
    simp only [render, List.cons_append, List.nil_append]
    rw [readValue_scalar (by decide) (by decide) (by decide)]
    rfl
  | .bool false, bound, _, rest, _ => by
    simp only [render, List.cons_append, List.nil_append]
    rw [readValue_scalar (by decide) (by decide) (by decide)]
    rfl
  | .number (.integer value fits), bound, _, rest, ends => by
    rw [render, Number.render]
    exact readValue_renderInt value fits bound ends
  | .number (.float value), bound, _, rest, ends => by
    rw [render, Number.render]
    exact readValue_renderFloat value bound ends
  | .string value, bound, _, rest, _ => by
    simp only [render, renderString, List.cons_append, List.append_assoc, List.nil_append]
    rw [readValue_scalar (by decide) (by decide) (by decide)]
    simp only [readScalar, readString_flatMap]
    rfl
  | .array [], 0, deep, _, _ => by simp [depth] at deep
  | .array [], bound + 1, _, rest, _ => rfl
  | .array (_ :: _), 0, deep, _, _ => by simp [depth] at deep
  | .array (item :: items), bound + 1, deep, rest, _ => by
    simp only [depth, depthItems] at deep
    have item_read := readValue_render item (show item.depth ≤ bound by omega)
      (ends_renderItems items rest)
    have items_read := readItems_renderItems items (show depthItems items ≤ bound by omega)
      (Nat.lt_succ_of_lt (length_lt_renderItems items rest)) rest
    rw [render, List.cons_append, List.cons_append, List.append_assoc, readValue_list, item_read]
    simp only [bind, Except.bind, items_read]
    rfl
  | .object .nil, 0, deep, _, _ => by simp [depth] at deep
  | .object .nil, bound + 1, _, rest, _ => rfl
  | .object (.cons ..), 0, deep, _, _ => by simp [depth] at deep
  | .object (.cons key follows value members), bound + 1, deep, rest, _ => by
    simp only [depth, depthMembers] at deep
    have value_read := readValue_render value (show value.depth ≤ bound by omega)
      (ends_renderMembers members rest)
    have members_read := readMembers_renderMembers members
      (show depthMembers members ≤ bound by omega)
      (Nat.lt_succ_of_lt (length_lt_renderMembers members rest)) rest
    have member_read := readMember_renderString (readValue bound) key value_read
    -- The members stand in ascending order, so they make up the object that was written.
    have rebuilt := Table.ofList_toList
      (Entries.cons key follows value.reread (rereadMembers members))
    rw [Entries.toList] at rebuilt
    simp only [render, renderString, List.cons_append, List.append_assoc, List.nil_append]
    rw [readValue_object, member_read]
    simp only [bind, Except.bind, members_read, ofMembers, rebuilt]
    rfl
termination_by structural value => value

/-- The items behind the first one are read back, with the bracket that ends the list. -/
theorem readItems_renderItems : (items : List Json) → {bound : Nat} → depthItems items ≤ bound →
    {count : Nat} → items.length < count → (rest : List Char) →
      readItems (readValue bound) count (renderItems items ++ rest) = .ok (rereadItems items, rest)
  | _, _, _, 0, few, _ => by simp at few
  | [], _, _, count + 1, _, rest => rfl
  | item :: items, bound, deep, count + 1, few, rest => by
    -- The first item is read by its own round trip, and the others with one less to count.
    simp only [depthItems] at deep
    have item_read := readValue_render item (show item.depth ≤ bound by omega)
      (ends_renderItems items rest)
    have fewer : items.length < count := by simpa using few
    have items_read := readItems_renderItems items (show depthItems items ≤ bound by omega)
      fewer rest
    rw [renderItems, List.cons_append, List.cons_append, List.append_assoc, readItems_cons,
      item_read]
    simp only [bind, Except.bind, items_read]
    rfl
termination_by structural items => items

/-- The members behind the first one are read back, with the brace that ends the object. -/
theorem readMembers_renderMembers {low : Option String} : (members : Entries Json low) →
    {bound : Nat} → depthMembers members ≤ bound → {count : Nat} →
      members.toList.length < count → (rest : List Char) →
        readMembers (readValue bound) count (renderMembers members ++ rest) =
          .ok ((rereadMembers members).toList, rest)
  | _, _, _, 0, few, _ => by simp at few
  | .nil, _, _, count + 1, _, rest => rfl
  | .cons key follows value members, bound, deep, count + 1, few, rest => by
    -- The first value is read by its own round trip, and the others with one less to count.
    simp only [depthMembers] at deep
    have value_read := readValue_render value (show value.depth ≤ bound by omega)
      (ends_renderMembers members rest)
    have fewer : members.toList.length < count := by simpa [Entries.toList] using few
    have members_read := readMembers_renderMembers members
      (show depthMembers members ≤ bound by omega) fewer rest
    have member_read := readMember_renderString (readValue bound) key value_read
    simp only [renderMembers, renderString, List.cons_append, List.append_assoc, List.nil_append]
    rw [readMembers_cons, member_read]
    simp only [bind, Except.bind, members_read]
    rfl
termination_by structural members => members

end

/-- A value that nests no deeper than a text may is read back from its text. -/
theorem parse_text {value : Json} (shallow : value.depth ≤ depthLimit) :
    parse value.text = .ok value.reread := by
  -- Nothing is left behind the value.
  have read := readValue_render value shallow ends_nil
  rw [List.append_nil] at read
  rw [parse, text, String.toList_ofList, parseChars, read]
  rfl

end DocView.Json
