import DocView.Text.Utf8

/-! Decoding the UTF-8 form of a text gives the text back. -/

namespace DocView.Utf8

/-- The code point of a character is not too great, and no surrogate. -/
theorem toNat_bounds (char : Char) :
    char.toNat < 0x110000 ∧ (char.toNat < 0xd800 ∨ 0xdfff < char.toNat) := by
  -- A character carries the proof that it is in one of two ranges.
  rcases char.valid with below | ⟨above, bounded⟩
  · have small : char.toNat < 0xd800 := below
    omega
  · have large : 0xdfff < char.toNat := above
    have fits : char.toNat < 0x110000 := bounded
    omega

/-- A small number is the value of its byte. -/
theorem toNat_ofNat_byte {value : Nat} (small : value < 256) : (UInt8.ofNat value).toNat = value := by
  simp [Nat.mod_eq_of_lt small]

section Steps

variable {index value : Nat} {begun : Begun} {rest : List UInt8}

/-- A byte below 128 is a character of its own. -/
theorem decodeFrom_single (small : value < 0x80) :
    decodeFrom index none (.ofNat value :: rest) =
      (decodeFrom (index + 1) none rest).map (Char.ofNat value :: ·) := by
  have byte : (UInt8.ofNat value).toNat = value := toNat_ofNat_byte (by omega)
  rw [decodeFrom, byte, if_pos small]

/-- Any other byte may begin a character. -/
theorem decodeFrom_begin (bounds : 0x80 ≤ value ∧ value < 256)
    (begins : begin? index value = some begun) :
    decodeFrom index none (.ofNat value :: rest) = decodeFrom (index + 1) (some begun) rest := by
  have byte : (UInt8.ofNat value).toNat = value := toNat_ofNat_byte bounds.2
  rw [decodeFrom, byte, if_neg (by omega), begins]

/-- A byte that fits continues a character that is not complete with it. -/
theorem decodeFrom_extend (small : value < 256) (fits : begun.low ≤ value ∧ value < begun.high)
    (more : begun.behind ≠ 0) :
    decodeFrom index (some begun) (.ofNat value :: rest) =
      decodeFrom (index + 1) (some (begun.extend value)) rest := by
  have byte : (UInt8.ofNat value).toNat = value := toNat_ofNat_byte small
  have takes : begun.takes value = true := by simp [Begun.takes, fits]
  rw [decodeFrom, byte, if_pos takes, if_neg more]

/-- A byte that fits completes a character that lacks no other byte. -/
theorem decodeFrom_last (small : value < 256) (fits : begun.low ≤ value ∧ value < begun.high)
    (last : begun.behind = 0) :
    decodeFrom index (some begun) (.ofNat value :: rest) =
      (decodeFrom (index + 1) none rest).map (Char.ofNat (begun.code * 64 + value % 64) :: ·) := by
  have byte : (UInt8.ofNat value).toNat = value := toNat_ofNat_byte small
  have takes : begun.takes value = true := by simp [Begun.takes, fits]
  rw [decodeFrom, byte, if_pos takes, if_pos last]
  rfl

end Steps

section Widths

variable {code : Nat} (index : Nat) (rest : List UInt8)

/-- A code point of two bytes is read back. -/
theorem decodeFrom_two (wide : 0x80 ≤ code ∧ code < 0x800) :
    decodeFrom index none (.ofNat (0xc0 + code / 64) :: .ofNat (0x80 + code % 64) :: rest) =
      (decodeFrom (index + 2) none rest).map (Char.ofNat code :: ·) := by
  -- The first byte has five bits of the code point, and the second one has six.
  have begins : begin? index (0xc0 + code / 64) = some ⟨index, 1, code / 64, 0, 0x80, 0xc0⟩ := by
    have bits : (0xc0 + code / 64) % 32 = code / 64 := by omega
    rw [begin?, if_neg (by omega), if_pos (by omega), bits]
  rw [decodeFrom_begin (by omega) begins, decodeFrom_last (by omega) (by simp; omega) rfl]
  have whole : code / 64 * 64 + (0x80 + code % 64) % 64 = code := by omega
  rw [whole]

/-- A code point of three bytes is read back. -/
theorem decodeFrom_three (wide : 0x800 ≤ code ∧ code < 0x10000)
    (proper : code < 0xd800 ∨ 0xdfff < code) :
    decodeFrom index none (.ofNat (0xe0 + code / 4096) :: .ofNat (0x80 + code / 64 % 64) ::
        .ofNat (0x80 + code % 64) :: rest) =
      (decodeFrom (index + 3) none rest).map (Char.ofNat code :: ·) := by
  -- The first byte has four bits of the code point, and each of the others has six.
  have begins : begin? index (0xe0 + code / 4096) = some ⟨index, 1, code / 4096, 1,
      if 0xe0 + code / 4096 = 0xe0 then 0xa0 else 0x80,
      if 0xe0 + code / 4096 = 0xed then 0xa0 else 0xc0⟩ := by
    have bits : (0xe0 + code / 4096) % 16 = code / 4096 := by omega
    rw [begin?, if_neg (by omega), if_neg (by omega), if_pos (by omega), bits]
  -- The bounds of the second byte leave out short forms and surrogates alone.
  rw [decodeFrom_begin (by omega) begins,
    decodeFrom_extend (by omega) (by simp only; constructor <;> split <;> omega) (by simp),
    decodeFrom_last (by omega) (by simp [Begun.extend]; omega) rfl]
  have whole : (code / 4096 * 64 + (0x80 + code / 64 % 64) % 64) * 64 + (0x80 + code % 64) % 64 =
      code := by omega
  simp only [Begun.extend, Begun.codeWith, whole]

/-- A code point of four bytes is read back. -/
theorem decodeFrom_four (wide : 0x10000 ≤ code ∧ code < 0x110000) :
    decodeFrom index none (.ofNat (0xf0 + code / 262144) :: .ofNat (0x80 + code / 4096 % 64) ::
        .ofNat (0x80 + code / 64 % 64) :: .ofNat (0x80 + code % 64) :: rest) =
      (decodeFrom (index + 4) none rest).map (Char.ofNat code :: ·) := by
  -- Two bytes extend the first one, and the last one completes the character.
  have begins : begin? index (0xf0 + code / 262144) = some ⟨index, 1, code / 262144, 2,
      if 0xf0 + code / 262144 = 0xf0 then 0x90 else 0x80,
      if 0xf0 + code / 262144 = 0xf4 then 0x90 else 0xc0⟩ := by
    have bits : (0xf0 + code / 262144) % 8 = code / 262144 := by omega
    rw [begin?, if_neg (by omega), if_neg (by omega), if_neg (by omega), if_pos (by omega), bits]
  rw [decodeFrom_begin (by omega) begins,
    decodeFrom_extend (by omega) (by simp only; constructor <;> split <;> omega) (by simp),
    decodeFrom_extend (by omega) (by simp [Begun.extend]; omega) (by simp [Begun.extend]),
    decodeFrom_last (by omega) (by simp [Begun.extend]; omega) rfl]
  have whole : ((code / 262144 * 64 + (0x80 + code / 4096 % 64) % 64) * 64 +
      (0x80 + code / 64 % 64) % 64) * 64 + (0x80 + code % 64) % 64 = code := by omega
  simp only [Begun.extend, Begun.codeWith, whole]

end Widths

/-- The bytes of a character are read back, wherever they stand. -/
theorem decodeFrom_encodeChar (index : Nat) (char : Char) (rest : List UInt8) :
    ∃ next, decodeFrom index none (encodeChar char ++ rest) =
      (decodeFrom next none rest).map (char :: ·) := by
  -- The decoder undoes each length of a code on its own.
  obtain ⟨bounded, proper⟩ := toNat_bounds char
  have back : Char.ofNat char.toNat = char := Char.ofNat_toNat char
  simp only [encodeChar]
  generalize char.toNat = code at *
  -- The number of bytes is decided by the code point alone.
  split
  · exact ⟨index + 1, by rw [← back]; exact decodeFrom_single ‹_›⟩
  · split
    · exact ⟨index + 2, by rw [← back]; exact decodeFrom_two index rest (by omega)⟩
    · split
      · exact ⟨index + 3, by rw [← back]; exact decodeFrom_three index rest (by omega) proper⟩
      · exact ⟨index + 4, by rw [← back]; exact decodeFrom_four index rest (by omega)⟩

/-- Decoding the form of a text gives the text back. -/
theorem decode_encode (chars : List Char) : decode (encode chars) = .ok chars := by
  -- The index of the next byte grows from character to character, so it stays open.
  have general : ∀ index, decodeFrom index none (encode chars) = .ok chars := by
    induction chars with
    | nil => exact fun index => rfl
    | cons char rest ih =>
      intro index
      obtain ⟨next, step⟩ := decodeFrom_encodeChar index char (encode rest)
      have split : encode (char :: rest) = encodeChar char ++ encode rest := by simp [encode]
      rw [split, step, ih next]
      rfl
  exact general 0

end DocView.Utf8
