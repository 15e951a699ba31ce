import DocView.Proofs.Json.RoundTrip

/-!
A value that nests deeper than a text may is not read back. What stands before the part that nests
too deep is read, and there the reader stops.
-/

namespace DocView.Json

/-- Whether a reader stops because lists and objects nest too deep. -/
def StopsTooDeep {α : Type} (result : Except Stop α) : Prop :=
  ∃ stop, result = .error stop ∧ stop.fault = .tooDeep

/-- What comes after a stop is not read. -/
theorem StopsTooDeep.bind {α β : Type} {result : Except Stop α} (stops : StopsTooDeep result)
    (next : α → Except Stop β) : StopsTooDeep (result >>= next) := by
  obtain ⟨stop, rfl, deep⟩ := stops
  exact ⟨stop, rfl, deep⟩

/-- A member stops where its value does. -/
theorem readMember_stops {bound : Nat} {chars : List Char} (key : String)
    (stops : StopsTooDeep (readValue bound chars)) :
    StopsTooDeep (readMember (readValue bound)
      (key.toList.flatMap escapeChar ++ '"' :: ':' :: chars)) := by
  have colon : skipSpace (':' :: chars) = ':' :: chars := skipSpace_cons (by decide)
  simp only [readMember, readString_flatMap, bind, Except.bind, colon]
  exact stops.bind _

mutual

/-- A value that nests too deep stops the reader. -/
theorem readValue_tooDeep : (value : Json) → {bound : Nat} → bound < value.depth →
    (rest : List Char) → StopsTooDeep (readValue bound (value.render ++ rest))
  | .null, _, deep, _ | .bool _, _, deep, _ | .number _, _, deep, _ | .string _, _, deep, _ => by
    simp [depth] at deep
  | .array [], 0, _, rest => ⟨_, rfl, rfl⟩
  | .array (_ :: _), 0, _, rest => ⟨_, rfl, rfl⟩
  | .array [], bound + 1, deep, _ => by simp [depth, depthItems] at deep
  | .array (item :: items), bound + 1, deep, rest => by
    simp only [depth, depthItems] at deep
    rw [render, List.cons_append, List.cons_append, List.append_assoc, readValue_list]
    -- The first item that nests too deep stops the reader, and those before it are read.
    rcases Nat.lt_or_ge bound item.depth with here | above
    · exact (readValue_tooDeep item here (renderItems items ++ rest)).bind _
    · rw [readValue_render item above (ends_renderItems items rest)]
      exact (readItems_tooDeep items (by omega)
        (Nat.lt_succ_of_lt (length_lt_renderItems items rest)) rest).bind _
  | .object .nil, 0, _, rest => ⟨_, rfl, rfl⟩
  | .object (.cons ..), 0, _, rest => ⟨_, rfl, rfl⟩
  | .object .nil, bound + 1, deep, _ => by simp [depth, depthMembers] at deep
  | .object (.cons key follows value members), bound + 1, deep, rest => by
    simp only [depth, depthMembers] at deep
    simp only [render, renderString, List.cons_append, List.append_assoc, List.nil_append]
    rw [readValue_object]
    -- Either the value of the first member stops the reader, or one of a later member does.
    rcases Nat.lt_or_ge bound value.depth with here | above
    · exact (readMember_stops key
        (readValue_tooDeep value here (renderMembers members ++ rest))).bind _
    · rw [readMember_renderString (readValue bound) key
        (readValue_render value above (ends_renderMembers members rest))]
      exact (readMembers_tooDeep members (by omega)
        (Nat.lt_succ_of_lt (length_lt_renderMembers members rest)) rest).bind _
termination_by structural value => value

/-- Items of which one nests too deep stop the reader. -/
theorem readItems_tooDeep : (items : List Json) → {bound : Nat} → bound < depthItems items →
    {count : Nat} → items.length < count → (rest : List Char) →
      StopsTooDeep (readItems (readValue bound) count (renderItems items ++ rest))
  | _, _, _, 0, few, _ => by simp at few
  | [], _, deep, _, _, _ => by simp [depthItems] at deep
  | item :: items, bound, deep, count + 1, few, rest => by
    simp only [depthItems] at deep
    rw [renderItems, List.cons_append, List.cons_append, List.append_assoc, readItems_cons]
    rcases Nat.lt_or_ge bound item.depth with here | above
    · exact (readValue_tooDeep item here (renderItems items ++ rest)).bind _
    · have fewer : items.length < count := by simpa using few
      rw [readValue_render item above (ends_renderItems items rest)]
      exact (readItems_tooDeep items (by omega) fewer rest).bind _
termination_by structural items => items

/-- Members of which one nests too deep stop the reader. -/
theorem readMembers_tooDeep {low : Option String} : (members : Entries Json low) →
    {bound : Nat} → bound < depthMembers members → {count : Nat} →
      members.toList.length < count → (rest : List Char) →
        StopsTooDeep (readMembers (readValue bound) count (renderMembers members ++ rest))
  | _, _, _, 0, few, _ => by simp at few
  | .nil, _, deep, _, _, _ => by simp [depthMembers] at deep
  | .cons key follows value members, bound, deep, count + 1, few, rest => by
    simp only [depthMembers] at deep
    simp only [renderMembers, renderString, List.cons_append, List.append_assoc, List.nil_append]
    rw [readMembers_cons]
    rcases Nat.lt_or_ge bound value.depth with here | above
    · exact (readMember_stops key
        (readValue_tooDeep value here (renderMembers members ++ rest))).bind _
    · have fewer : members.toList.length < count := by simpa [Entries.toList] using few
      rw [readMember_renderString (readValue bound) key
        (readValue_render value above (ends_renderMembers members rest))]
      exact (readMembers_tooDeep members (by omega) fewer rest).bind _
termination_by structural members => members

end

/-- A value that nests deeper than a text may is refused for that. -/
theorem parse_text_tooDeep {value : Json} (deep : depthLimit < value.depth) :
    ∃ place, parse value.text = .error ⟨.tooDeep, place⟩ := by
  -- The reader stops in the value itself, and the parser only adds where that was.
  obtain ⟨stop, stopped, fault⟩ := readValue_tooDeep value deep []
  rw [List.append_nil] at stopped
  refine ⟨(stop.locate value.render).place, ?_⟩
  rw [parse, text, String.toList_ofList, parseChars, stopped]
  -- The fault stays the same when it is told where in the text it is.
  have located : stop.locate value.render = ⟨stop.fault, (stop.locate value.render).place⟩ := rfl
  exact congrArg Except.error (located.trans (by rw [fault]))

end DocView.Json
