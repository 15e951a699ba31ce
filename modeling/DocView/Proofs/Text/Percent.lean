import DocView.Proofs.Text.Utf8
import DocView.Text.Percent

/-!
Percent coding loses nothing, and its form holds no character that separates anything in an address.
-/

namespace DocView.Percent

/-- Whether a character may stand in an encoded text. -/
def isCoded (char : Char) : Bool := isUnreserved char.toNat || char = '%'

/-- A small number is the code of its character. -/
theorem toNat_ofNat_char {code : Nat} (small : code < 128) : (Char.ofNat code).toNat = code := by
  have valid : code.isValidChar := .inl (by omega)
  rw [Char.ofNat, dif_pos valid]
  rfl

/-- A byte that stands for itself is that of a small character other than the sign. -/
theorem small_of_isUnreserved {byte : Nat} (unreserved : isUnreserved byte = true) :
    byte < 128 ∧ Char.ofNat byte ≠ '%' := by
  -- The definition bounds the byte and lists its characters.
  simp only [isUnreserved, Bool.and_eq_true, decide_eq_true_eq] at unreserved
  obtain ⟨small, allowed⟩ := unreserved
  refine ⟨small, fun sign => ?_⟩
  -- The sign is neither a letter nor a digit, nor one of the marks.
  rw [sign] at allowed
  revert allowed
  decide

/-- The form of a byte holds nothing but characters that may stand in an encoded text. -/
theorem isCoded_of_mem_encodeByte {byte : UInt8} {char : Char} (member : char ∈ encodeByte byte) :
    isCoded char = true := by
  -- A byte is written as itself, or by the sign and two digits.
  unfold encodeByte at member
  split at member
  · rename_i unreserved
    obtain ⟨small, _⟩ := small_of_isUnreserved unreserved
    rw [List.mem_singleton.1 member, isCoded, toNat_ofNat_char small, unreserved]
    rfl
  · -- A byte has two digits in hexadecimal, and sixteen characters serve as digits.
    have each : ∀ value : Fin 16, isCoded (hexDigit value) = true := by decide
    have bounded : byte.toNat < 256 := UInt8.toNat_lt byte
    have upper := each ⟨byte.toNat / 16, by omega⟩
    have lower := each ⟨byte.toNat % 16, by omega⟩
    simp only [List.mem_cons, List.not_mem_nil, or_false] at member
    rcases member with rfl | rfl | rfl
    · decide
    · exact upper
    · exact lower

/-- An encoded text holds nothing but characters that may stand in one. -/
theorem isCoded_of_mem_encodeChars {chars : List Char} {char : Char}
    (member : char ∈ encodeChars chars) : isCoded char = true := by
  obtain ⟨byte, _, stands⟩ := List.mem_flatMap.1 member
  exact isCoded_of_mem_encodeByte stands

/-- A separator does not stand in an encoded text. -/
theorem not_mem_encodeChars {chars : List Char} {separator : Char}
    (outside : isCoded separator = false) : separator ∉ encodeChars chars := by
  intro member
  rw [isCoded_of_mem_encodeChars member] at outside
  cases outside

/-- A byte is read back from its form, whatever follows. -/
theorem decodeBytes_encodeByte (byte : UInt8) (rest : List Char) :
    decodeBytes (encodeByte byte ++ rest) = byte :: decodeBytes rest := by
  -- The two ways of writing a byte are told apart by the sign.
  have bounded : byte.toNat < 256 := UInt8.toNat_lt byte
  unfold encodeByte
  split
  · rename_i unreserved
    -- A character that stands for itself is one byte, and not the sign.
    obtain ⟨small, plain⟩ := small_of_isUnreserved unreserved
    have single : Utf8.encodeChar (Char.ofNat byte.toNat) = [byte] := by
      rw [Utf8.encodeChar, toNat_ofNat_char small]
      simp [small]
    rw [List.singleton_append, decodeBytes.eq_def]
    split
    · rename_i empty
      cases empty
    · rename_i sign
      exact absurd (List.cons.inj sign).1 plain
    · rename_i other
      obtain ⟨rfl, rfl⟩ := List.cons.inj other
      rw [single]
      rfl
  · -- Both digits of a byte in hexadecimal are read back.
    have each : ∀ value : Fin 16, hexValue? (hexDigit value) = some value.val := by decide
    have upper := each ⟨byte.toNat / 16, by omega⟩
    have lower := each ⟨byte.toNat % 16, by omega⟩
    simp only at upper lower
    have whole : byte.toNat / 16 * 16 + byte.toNat % 16 = byte.toNat := by omega
    simp [decodeBytes, upper, lower, whole]

/-- The bytes of a text are read back from its form. -/
theorem decodeBytes_encodeChars (chars : List Char) :
    decodeBytes (encodeChars chars) = Utf8.encode chars := by
  -- The bytes are read back one by one.
  have general : ∀ bytes : List UInt8, decodeBytes (bytes.flatMap encodeByte) = bytes := by
    intro bytes
    induction bytes with
    | nil => rfl
    | cons byte rest ih => rw [List.flatMap_cons, decodeBytes_encodeByte, ih]
  exact general (Utf8.encode chars)

/-- Decoding the form of a text gives the text back. -/
theorem decodeChars_encodeChars (chars : List Char) :
    decodeChars (encodeChars chars) = .ok chars := by
  rw [decodeChars, decodeBytes_encodeChars, Utf8.decode_encode]

/-- Decoding the form of a text gives the text back, as texts. -/
theorem decode_encode (text : String) : decode (encode text) = .ok text := by
  rw [decode, encode, String.toList_ofList, decodeChars_encodeChars]
  exact congrArg Except.ok String.ofList_toList

/-- Different texts have different forms. -/
theorem encode_inj {first second : String} : encode first = encode second ↔ first = second := by
  constructor
  · intro same
    -- Each text can be read off its form.
    have read := congrArg decode same
    rw [decode_encode, decode_encode] at read
    exact Except.ok.inj read
  · exact congrArg encode

/-- A character that stands for itself is one byte in one character. -/
theorem encodeChars_singleton_of_isUnreserved {char : Char}
    (unreserved : isUnreserved char.toNat = true) : encodeChars [char] = [char] := by
  -- Such a character is small, so its only byte is its code.
  obtain ⟨small, _⟩ := small_of_isUnreserved unreserved
  have byte : (UInt8.ofNat char.toNat).toNat = char.toNat := Utf8.toNat_ofNat_byte (by omega)
  have single : Utf8.encode [char] = [.ofNat char.toNat] := by
    simp [Utf8.encode, Utf8.encodeChar, small]
  rw [encodeChars, single, List.flatMap_singleton, encodeByte, byte, if_pos unreserved,
    Char.ofNat_toNat]

/-- Every other character takes several. -/
theorem length_encodeChars_singleton {char : Char} (reserved : isUnreserved char.toNat = false) :
    1 < (encodeChars [char]).length := by
  -- The first byte is reserved: it is the character's own code, or beyond what stands for itself.
  obtain ⟨first, others, bytes, coded⟩ : ∃ first others, Utf8.encode [char] = first :: others ∧
      isUnreserved first.toNat = false := by
    have beyond {value : Nat} (large : 128 ≤ value) : isUnreserved value = false := by
      simp [isUnreserved, Nat.not_lt.2 large]
    obtain ⟨bounded, _⟩ := Utf8.toNat_bounds char
    simp only [Utf8.encode, List.flatMap_singleton, Utf8.encodeChar]
    split
    · refine ⟨_, _, rfl, ?_⟩
      rwa [Utf8.toNat_ofNat_byte (by omega)]
    · split
      · refine ⟨_, _, rfl, ?_⟩
        rw [Utf8.toNat_ofNat_byte (by omega)]
        exact beyond (by omega)
      · split <;>
        · refine ⟨_, _, rfl, ?_⟩
          rw [Utf8.toNat_ofNat_byte (by omega)]
          exact beyond (by omega)
  rw [encodeChars, bytes, List.flatMap_cons, encodeByte, coded]
  simp

/-- The form of a character and of those behind it. -/
theorem encodeChars_cons (char : Char) (rest : List Char) :
    encodeChars (char :: rest) = encodeChars [char] ++ encodeChars rest := by
  simp [encodeChars, Utf8.encode]

/-- A text gets longer by its characters that do not stand for themselves. -/
theorem length_add_countP_le_length_encodeChars (chars : List Char) :
    chars.length + chars.countP (fun char => !isUnreserved char.toNat) ≤
      (encodeChars chars).length := by
  -- Each of them adds at least one character, and no character gets lost.
  induction chars with
  | nil => exact Nat.le_refl 0
  | cons char rest ih =>
    rw [encodeChars_cons, List.length_append, List.length_cons, List.countP_cons]
    cases unreserved : isUnreserved char.toNat with
    | true =>
      rw [encodeChars_singleton_of_isUnreserved unreserved]
      simp
      omega
    | false =>
      have several := length_encodeChars_singleton unreserved
      simp
      omega

/-- A text is its own encoded form exactly if each of its characters stands for itself. -/
theorem encodeChars_eq_self_iff {chars : List Char} :
    encodeChars chars = chars ↔ ∀ char ∈ chars, isUnreserved char.toNat = true := by
  -- A text is only ever made longer, so it stays the same only if each of its characters does.
  constructor
  · intro same char member
    -- A character that does not stand for itself would have made the text longer.
    have longer := length_add_countP_le_length_encodeChars chars
    rw [same] at longer
    have none : chars.countP (fun char => !isUnreserved char.toNat) = 0 := by omega
    simpa using List.countP_eq_zero.1 none char member
  · intro each
    induction chars with
    | nil => rfl
    | cons char rest ih =>
      have first := encodeChars_singleton_of_isUnreserved (each char List.mem_cons_self)
      have later := ih fun char member => each char (List.mem_cons_of_mem _ member)
      rw [encodeChars_cons, first, later]
      rfl

end DocView.Percent
