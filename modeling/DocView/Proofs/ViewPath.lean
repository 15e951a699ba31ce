import DocView.Proofs.Text.Percent
import DocView.ViewPath

/-! The path of a view tells the document and the name that it was made from. -/

namespace DocView

/-- A text that holds a character less often than a marker does not hold the marker. -/
theorem splitLastMarker?_eq_none {marker chars : List Char} {char : Char}
    (few : chars.count char < marker.count char) : splitLastMarker? marker chars = none := by
  -- A text that begins with the marker holds each character as often as the marker does.
  induction chars with
  | nil => rfl
  | cons first rest ih =>
    have fewer : rest.count char < marker.count char :=
      Nat.lt_of_le_of_lt (List.Sublist.count_le char (List.sublist_cons_self first rest)) few
    have differs : marker.isPrefixOf (first :: rest) = false := by
      refine Bool.eq_false_iff.2 fun begins => ?_
      have within := (List.isPrefixOf_iff_prefix.1 begins).sublist.count_le char
      omega
    simp [splitLastMarker?, ih fewer, differs]

/-- The last marker is found if too little follows it to hold another one. -/
theorem splitLastMarker?_append {first char : Char} {others behind : List Char}
    (few : (others ++ behind).count char < (first :: others).count char) (before : List Char) :
    splitLastMarker? (first :: others) (before ++ (first :: others) ++ behind) =
      some (before, behind) := by
  -- What stands before the marker is passed over, for the marker is found behind it.
  induction before with
  | nil =>
    have later := splitLastMarker?_eq_none few
    have begins : (first :: others).isPrefixOf (first :: (others ++ behind)) = true :=
      List.isPrefixOf_iff_prefix.2 ⟨behind, rfl⟩
    simp only [List.nil_append, List.cons_append, splitLastMarker?, later, begins, if_true]
    simp
  | cons earlier before ih =>
    have step : splitLastMarker? (first :: others)
        (before ++ (first :: others) ++ behind) = some (before, behind) := ih
    simp only [List.cons_append, splitLastMarker?] at step ⊢
    rw [step]

/-- A text is cut at the last occurrence of a marker. -/
structure CutAtLastMarker (marker text before behind : String) : Prop where
  /-- The marker stands between the two parts. -/
  joined : text = before ++ marker ++ behind
  /-- No occurrence begins later. -/
  last : ∀ earlier later, text = earlier ++ marker ++ later → earlier.length ≤ before.length

section LastMarker

variable {marker chars : List Char}

/-- There is no last marker exactly if there is none. -/
theorem splitLastMarker?_eq_none_iff (filled : marker ≠ []) :
    splitLastMarker? marker chars = none ↔ ¬marker <:+: chars := by
  -- By induction on the characters: the split looks for the marker at each place from the end.
  induction chars with
  | nil => simp [splitLastMarker?, filled]
  | cons char rest ih =>
    -- A marker begins with the first character, or it lies in the rest.
    rw [splitLastMarker?, List.infix_cons_iff]
    cases later : splitLastMarker? marker rest with
    | none => simp [ih.1 later]
    | some parts =>
      have within : marker <:+: rest := by
        refine Classical.byContradiction fun absent => ?_
        rw [ih.2 absent] at later
        cases later
      simp [within]

/-- The two parts that are found stand around a marker behind which no other one begins. -/
theorem of_splitLastMarker? (filled : marker ≠ []) {before behind : List Char}
    (split : splitLastMarker? marker chars = some (before, behind)) :
    chars = before ++ marker ++ behind ∧
      ∀ earlier later, chars = earlier ++ marker ++ later → earlier.length ≤ before.length := by
  -- The search is followed down the list, up to the marker that it finds.
  induction chars generalizing before with
  | nil => cases split
  | cons char rest ih =>
    rw [splitLastMarker?] at split
    cases found : splitLastMarker? marker rest with
    | some parts =>
      rw [found] at split
      cases split
      obtain ⟨joined, last⟩ := ih found
      refine ⟨by rw [joined]; rfl, fun earlier later same => ?_⟩
      cases earlier with
      | nil => exact Nat.zero_le _
      | cons first earlier =>
        have shorter := last earlier later (List.cons.inj same).2
        simpa using shorter
    | none =>
      rw [found] at split
      dsimp only at split
      split at split
      · rename_i begins
        cases split
        obtain ⟨behind, whole⟩ := List.isPrefixOf_iff_prefix.1 begins
        refine ⟨by rw [← whole, List.drop_left]; rfl, fun earlier later same => ?_⟩
        cases earlier with
        | nil => exact Nat.le_refl 0
        | cons first earlier =>
          -- Another marker would lie in the rest, and there is none.
          have absent := (splitLastMarker?_eq_none_iff filled).1 found
          exact absurd ⟨earlier, later, (List.cons.inj same).2.symm⟩ absent
      · cases split

end LastMarker

/-- The last marker of a path stands between the document and the coded name. -/
theorem splitLastMarker?_viewPath (container name : String) :
    splitLastMarker? viewMarker.toList (viewPath container name).toList =
      some ((dropTrailing '/' container).toList, (Percent.encode name).toList) := by
  -- The coded name holds no slash, and the marker needs two of them.
  have none_coded : (Percent.encode name).toList.count '/' = 0 := by
    rw [Percent.encode, String.toList_ofList]
    exact List.count_eq_zero.2 (Percent.not_mem_encodeChars (by decide))
  have marker : viewMarker.toList = '/' :: ['_', 'v', 'i', 'e', 'w', '/'] := by decide
  have few : (['_', 'v', 'i', 'e', 'w', '/'] ++ (Percent.encode name).toList).count '/' <
      ('/' :: ['_', 'v', 'i', 'e', 'w', '/']).count '/' := by
    simp [none_coded]
  rw [viewPath, String.toList_append, String.toList_append, marker]
  exact splitLastMarker?_append few (dropTrailing '/' container).toList

/-- A path is cut at its last marker into the document and the coded name. -/
theorem cutAtLastMarker_viewPath (container name : String) :
    CutAtLastMarker viewMarker (viewPath container name) (dropTrailing '/' container)
      (Percent.encode name) := by
  obtain ⟨_, last⟩ := of_splitLastMarker? (by decide) (splitLastMarker?_viewPath container name)
  refine ⟨rfl, fun earlier later same => ?_⟩
  refine last earlier.toList later.toList ?_
  rw [same, String.toList_append, String.toList_append]

/-- A path addresses the document without the slashes at its end, and the name. -/
theorem splitViewPath?_viewPath (container name : String) :
    splitViewPath? (viewPath container name) = some (dropTrailing '/' container, name) := by
  rw [splitViewPath?, splitLastMarker?_viewPath]
  simp [Percent.encode, Percent.decodeChars_encodeChars]

/-- Paths are equal exactly if they are of one name in one document. -/
theorem viewPath_eq_iff {container name other otherName : String} :
    viewPath container name = viewPath other otherName ↔
      dropTrailing '/' container = dropTrailing '/' other ∧ name = otherName := by
  -- A path can be taken apart again, up to the slashes that were dropped.
  constructor
  · intro same
    -- Both can be read off the path.
    have split := congrArg splitViewPath? same
    rw [splitViewPath?_viewPath, splitViewPath?_viewPath] at split
    exact ⟨congrArg Prod.fst (Option.some.inj split), congrArg Prod.snd (Option.some.inj split)⟩
  · rintro ⟨documents, rfl⟩
    rw [viewPath, viewPath, documents]

/-- Nothing but the character is taken off the end of a text. -/
theorem exists_dropTrailing_append (char : Char) (text : String) :
    ∃ count, text = dropTrailing char text ++ String.ofList (List.replicate count char) := by
  -- Read from its end, the text begins with the characters that are taken off.
  have taken : text.toList.reverse.takeWhile (· == char) =
      List.replicate (text.toList.reverse.takeWhile (· == char)).length char := by
    refine List.eq_replicate_iff.2 ⟨rfl, fun other member => ?_⟩
    exact eq_of_beq (List.all_eq_true.1 List.all_takeWhile other member)
  have whole := congrArg List.reverse
    (List.takeWhile_append_dropWhile (p := (· == char)) (l := text.toList.reverse))
  rw [List.reverse_append, List.reverse_reverse, taken, List.reverse_replicate] at whole
  refine ⟨(text.toList.reverse.takeWhile (· == char)).length, ?_⟩
  rw [← String.toList_inj, String.toList_append, String.toList_ofList, dropTrailing,
    String.toList_ofList]
  exact whole.symm

/-- The character is taken off as often as it stands at the end of a text. -/
theorem getLast?_dropTrailing (char : Char) (text : String) :
    (dropTrailing char text).toList.getLast? ≠ some char := by
  -- What is dropped is a prefix of the text read backwards.
  intro ends
  rw [dropTrailing, String.toList_ofList, List.getLast?_reverse] at ends
  -- What is left begins, read from its end, with another character.
  have stops := List.head?_dropWhile_not (· == char) text.toList.reverse
  rw [ends] at stops
  simp at stops

/-- Nothing is taken off a text that does not end in the character. -/
theorem dropTrailing_eq_self {char : Char} {text : String}
    (differs : text.toList.getLast? ≠ some char) : dropTrailing char text = text := by
  -- The text is what is left of it with what was taken off.
  obtain ⟨count, whole⟩ := exists_dropTrailing_append char text
  cases count with
  | zero => simpa using whole.symm
  | succ count =>
    -- One character that was taken off would stand at the end.
    refine absurd ?_ differs
    rw [whole, String.toList_append, String.toList_ofList, List.replicate_succ', ← List.append_assoc,
      List.getLast?_concat]

/-- Something is taken off a text that ends in the character. -/
theorem dropTrailing_ne_self {char : Char} {text : String}
    (ends : text.toList.getLast? = some char) : dropTrailing char text ≠ text := by
  intro same
  have stops := getLast?_dropTrailing char text
  rw [same] at stops
  exact stops ends

end DocView
