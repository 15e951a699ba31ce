import DocView.Json.Parser
import DocView.Json.Printer

/-! A text that is quoted is read back, and leaves what stands behind it. -/

namespace DocView.Json

/-- The digits of an escaped control character are read back. -/
theorem readUnit_control {code : Nat} (small : code < 32) (rest : List Char) :
    readUnit ('0' :: '0' :: hexDigit (code / 16) :: hexDigit (code % 16) :: rest) =
      .ok (code, rest) := by
  -- There are 32 control characters.
  have each : ∀ code < 32, Percent.hexValue? (hexDigit (code / 16)) = some (code / 16) ∧
      Percent.hexValue? (hexDigit (code % 16)) = some (code % 16) := by
    decide
  obtain ⟨upper, lower⟩ := each code small
  have zero : Percent.hexValue? '0' = some 0 := by decide
  have whole : code / 16 * 16 + code % 16 = code := by omega
  simp [readUnit, zero, upper, lower, whole]

/-- A control character without a short escape is read back. -/
theorem readQuoted_control {char : Char} (small : char.toNat < 32) (bound : Nat)
    (rest : List Char) :
    readQuoted (bound + 1) ('\\' :: 'u' :: '0' :: '0' :: hexDigit (char.toNat / 16) ::
        hexDigit (char.toNat % 16) :: rest) =
      (do let (chars, rest) ← readQuoted bound rest; .ok (char :: chars, rest)) := by
  -- Its code belongs to no pair of surrogates, so it is a character of its own.
  have back : Char.ofNat char.toNat = char := Char.ofNat_toNat char
  have not_trailing : isTrailing char.toNat = false := by
    simp only [isTrailing, Bool.and_eq_false_iff, decide_eq_false_iff_not]
    omega
  have not_leading : isLeading char.toNat = false := by
    simp only [isLeading, Bool.and_eq_false_iff, decide_eq_false_iff_not]
    omega
  simp [readQuoted, readEscape, readUnit_control small, not_trailing, not_leading, back, bind,
    Except.bind]

/-- A character inside a quotation is read back, whatever follows. -/
theorem readQuoted_escapeChar (char : Char) (bound : Nat) (rest : List Char) :
    readQuoted (bound + 1) (escapeChar char ++ rest) =
      (do let (chars, rest) ← readQuoted bound rest; .ok (char :: chars, rest)) := by
  unfold escapeChar
  -- Each escape is undone, and every other character stands for itself.
  split
  · subst_vars; rfl
  split
  · subst_vars; rfl
  split
  · subst_vars; rfl
  split
  · subst_vars; rfl
  split
  · subst_vars; rfl
  split
  · subst_vars; rfl
  split
  · subst_vars; rfl
  split
  · rename_i small
    exact readQuoted_control small bound rest
  · rename_i quote backslash _ _ _ _ _ large
    rw [List.singleton_append, readQuoted]
    · simp [large]
    · exact fun same => quote same
    · exact fun same => backslash same

/-- The characters of a quotation are read back, up to the quote that ends it. -/
theorem readQuoted_flatMap (chars : List Char) {bound : Nat} (enough : chars.length < bound)
    (rest : List Char) :
    readQuoted bound (chars.flatMap escapeChar ++ '"' :: rest) = .ok (chars, rest) := by
  -- By induction on the characters, each of which takes one step of the bound.
  induction chars generalizing bound with
  | nil =>
    obtain ⟨bound, rfl⟩ := Nat.exists_eq_add_of_lt enough
    rfl
  | cons char chars ih =>
    obtain ⟨fewer, rfl⟩ : ∃ fewer, bound = fewer + 1 := ⟨bound - 1, by omega⟩
    have shorter : chars.length < fewer := by simpa using enough
    rw [List.flatMap_cons, List.append_assoc, readQuoted_escapeChar, ih shorter]
    rfl

/-- Each character takes at least one character inside a quotation. -/
theorem length_le_flatMap_escapeChar (chars : List Char) :
    chars.length ≤ (chars.flatMap escapeChar).length := by
  -- No escape is empty.
  have positive : ∀ char, 1 ≤ (escapeChar char).length := by
    intro char
    unfold escapeChar
    repeat' split
    all_goals simp
  induction chars with
  | nil => simp
  | cons char chars ih =>
    have first := positive char
    simp only [List.flatMap_cons, List.length_append, List.length_cons]
    omega

/-- A quotation is read back behind the quote that opens it. -/
theorem readString_flatMap (text : String) (rest : List Char) :
    readString (text.toList.flatMap escapeChar ++ '"' :: rest) = .ok (text, rest) := by
  -- The reader allows as many characters as the text has, and one more.
  have enough : text.toList.length <
      (text.toList.flatMap escapeChar ++ '"' :: rest).length + 1 := by
    have fits := length_le_flatMap_escapeChar text.toList
    simp only [List.length_append]
    omega
  rw [readString, readQuoted_flatMap text.toList enough rest]
  show Except.ok (String.ofList text.toList, rest) = _
  rw [String.ofList_toList]

end DocView.Json
