import DocView.Json.Parser
import DocView.Json.Printer

/-! A whole number that is written in decimal digits is read back. -/

namespace DocView.Json

/-- Whether what follows a number does not go on with it. -/
def Ends (rest : List Char) : Prop :=
  ∀ char ∈ rest.head?, char.isDigit = false ∧ char ≠ '.' ∧ char ≠ 'e' ∧ char ≠ 'E'

/-- The end of a text ends a number. -/
theorem ends_nil : Ends [] := by
  intro char absent
  cases absent

/-- Further digits do not make a number less. -/
theorem le_ofDigitChars (digits : List Char) (start : Nat) :
    start ≤ Nat.ofDigitChars 10 digits start := by
  rw [Nat.ofDigitChars_eq_ofDigitChars_zero]
  have scaled := Nat.le_mul_of_pos_left start
    (Nat.pow_pos (show 0 < 10 by omega) : 0 < 10 ^ digits.length)
  omega

/-- The digits of a number that fits 64 bits are taken one after the other. -/
theorem gatherDigits_eq (digits : List Char) (start taken : Nat)
    (fits : Nat.ofDigitChars 10 digits start < 2 ^ 64) :
    gatherDigits start taken digits =
      (Nat.ofDigitChars 10 digits start, taken + digits.length) := by
  -- The reader stops at what does not fit 64 bits, and the whole number fits.
  induction digits generalizing start taken with
  | nil => simp [gatherDigits]
  | cons char rest ih =>
    rw [Nat.ofDigitChars_cons] at fits ⊢
    have grows := le_ofDigitChars rest (10 * start + (char.toNat - '0'.toNat))
    have takes : takesDigit start char = true := decide_eq_true (Nat.lt_of_le_of_lt grows fits)
    have value : digitValue char = char.toNat - '0'.toNat := rfl
    rw [gatherDigits, if_pos takes, value, ih _ _ fits]
    simp only [List.length_cons]
    congr 1
    omega

/-- Behind the digits of a whole number comes nothing that belongs to it. -/
theorem readBehindWhole_of_ends (negative : Bool) (value : Nat) {rest : List Char}
    (ends : Ends rest) :
    readBehindWhole negative value 0 rest = finishWhole negative value rest := by
  -- Neither a point nor an exponent follows.
  cases rest with
  | nil => rfl
  | cons char rest =>
    obtain ⟨_, point, small, large⟩ := ends char rfl
    unfold readBehindWhole
    split
    · exact absurd (List.cons.inj ‹_›).1 point
    · exact absurd (List.cons.inj ‹_›).1 small
    · exact absurd (List.cons.inj ‹_›).1 large
    · rfl

/-- Only zero is written with a zero at its front. -/
theorem toDigits_head_ne {value : Nat} (positive : 0 < value) {first : Char} {others : List Char}
    (digits : Nat.toDigits 10 value = first :: others) : first ≠ '0' := by
  -- The first digit of a number is that of its quotient by ten.
  induction value using Nat.strongRecOn generalizing first others with
  | ind value ih =>
    rw [Nat.toDigits_eq_if (by decide)] at digits
    split at digits
    · -- The nine digits that a positive number of one digit may have are looked at.
      rename_i small
      have each : ∀ digit : Fin 10, 0 < digit.val → Nat.digitChar digit ≠ '0' := by decide
      obtain ⟨rfl, _⟩ := List.cons.inj digits
      exact each ⟨value, small⟩ positive
    · rename_i large
      cases front : Nat.toDigits 10 (value / 10) with
      | nil => exact absurd front Nat.toDigits_ne_nil
      | cons head tail =>
        rw [front] at digits
        obtain ⟨rfl, _⟩ := List.cons.inj digits
        exact ih (value / 10) (by omega) (by omega) front

section Digits

variable {digits rest : List Char}

/-- Digits are taken up to the first character that is none. -/
theorem takeWhile_isDigit (all : ∀ char ∈ digits, char.isDigit = true)
    (stops : ∀ char ∈ rest.head?, char.isDigit = false) :
    (digits ++ rest).takeWhile Char.isDigit = digits := by
  rw [List.takeWhile_append_of_pos all]
  cases rest with
  | nil => exact List.append_nil _
  | cons char rest => simp [stops char rfl]

/-- What is left behind digits begins with the first character that is none. -/
theorem dropWhile_isDigit (all : ∀ char ∈ digits, char.isDigit = true)
    (stops : ∀ char ∈ rest.head?, char.isDigit = false) :
    (digits ++ rest).dropWhile Char.isDigit = rest := by
  rw [List.dropWhile_append_of_pos all]
  cases rest with
  | nil => rfl
  | cons char rest => simp [stops char rfl]

/-- The whole digits of a number are read behind its sign; only zero begins with a zero. -/
theorem readNumber_digits (negative : Bool) {first : Char} {others : List Char}
    (all : ∀ char ∈ first :: others, char.isDigit = true) (leading : first = '0' → others = [])
    (fits : Nat.ofDigitChars 10 (first :: others) 0 < 2 ^ 64)
    (stops : ∀ char ∈ rest.head?, char.isDigit = false) :
    readNumber negative (first :: others ++ rest) =
      readBehindWhole negative (Nat.ofDigitChars 10 (first :: others) 0) 0 rest := by
  -- A number that begins with a zero has no other digit, and all others are gathered whole.
  by_cases zero : first = '0'
  · obtain rfl := leading zero
    subst zero
    cases rest with
    | nil => rfl
    | cons char rest =>
      simp only [List.singleton_append, readNumber, stops char rfl, Bool.false_eq_true, if_false]
      rfl
  · have gathered := gatherDigits_eq (first :: others) 0 0 fits
    have front := takeWhile_isDigit all stops
    have behind := dropWhile_isDigit all stops
    rw [List.cons_append] at front behind ⊢
    unfold readNumber
    split
    · exact absurd ‹_› (List.cons_ne_nil _ _)
    · exact absurd (List.cons.inj ‹_›).1 zero
    · rename_i head tail _ same
      obtain ⟨rfl, rfl⟩ := List.cons.inj same
      simp only [all first List.mem_cons_self, if_true, front, behind, gathered]
      rw [Nat.zero_add, Nat.sub_self]

end Digits

/-- The digits of a whole number are read back behind its sign. -/
theorem readNumber_toDigits (negative : Bool) {value : Nat} (fits : value < 2 ^ 64)
    {rest : List Char} (ends : Ends rest) :
    readNumber negative (Nat.toDigits 10 value ++ rest) = finishWhole negative value rest := by
  -- The digits of a number are never empty, and they begin with a zero only for zero.
  have digit : ∀ char ∈ Nat.toDigits 10 value, char.isDigit = true := fun char member =>
    Nat.isDigit_of_mem_toDigits (by decide) (by decide) member
  have back : Nat.ofDigitChars 10 (Nat.toDigits 10 value) 0 = value :=
    Nat.ofDigitChars_toDigits (by decide) (by decide)
  have leading : ∀ first others, Nat.toDigits 10 value = first :: others → first = '0' →
      others = [] := by
    intro first others written zero
    rcases Nat.eq_zero_or_pos value with rfl | positive
    · exact (List.cons.inj written).2.symm
    · exact absurd zero (toDigits_head_ne positive written)
  cases written : Nat.toDigits 10 value with
  | nil => exact absurd written Nat.toDigits_ne_nil
  | cons first others =>
    rw [written] at digit back
    rw [readNumber_digits negative digit (leading first others written) (by rw [back]; exact fits)
      fun char next => (ends char next).1, back]
    exact readBehindWhole_of_ends negative value ends

end DocView.Json
