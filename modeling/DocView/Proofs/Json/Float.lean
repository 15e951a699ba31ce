import DocView.Proofs.Double.Shortest
import DocView.Proofs.Json.Whole

/-!
The text of a float is read as a float. The digits are read back as they stand, and no finite number
is written so that its text leaves the finite numbers.
-/

namespace DocView

namespace Double

/-- The digits of a decimal that are written, without the zeros at the end. -/
def Decimal.shown (decimal : Decimal) : List Char :=
  ((digitChars decimal.digits).reverse.dropWhile (· == '0')).reverse

/-- The digits of a decimal are those that are written, and zeros behind them. -/
theorem Decimal.digitChars_eq (decimal : Decimal) :
    ∃ zeros, digitChars decimal.digits = decimal.shown ++ List.replicate zeros '0' := by
  -- What is not shown is what was taken off the end, and that is zeros only.
  have alike : ∀ char ∈ (digitChars decimal.digits).reverse.takeWhile (· == '0'), char = '0' := by
    intro char member
    exact eq_of_beq (List.all_eq_true.1 List.all_takeWhile char member)
  refine ⟨((digitChars decimal.digits).reverse.takeWhile (· == '0')).length, ?_⟩
  -- The zeros stand in front of the digits when these are turned round.
  calc digitChars decimal.digits
      = ((digitChars decimal.digits).reverse.takeWhile (· == '0') ++
          (digitChars decimal.digits).reverse.dropWhile (· == '0')).reverse := by
        rw [List.takeWhile_append_dropWhile, List.reverse_reverse]
    _ = decimal.shown ++ ((digitChars decimal.digits).reverse.takeWhile (· == '0')).reverse :=
        List.reverse_append
    _ = _ := by
        rw [List.eq_replicate_of_mem alike, List.reverse_replicate, List.length_replicate]

/-- What is written of a decimal are digits. -/
theorem Decimal.isDigit_of_mem_shown {decimal : Decimal} {char : Char}
    (member : char ∈ decimal.shown) : char.isDigit = true := by
  obtain ⟨zeros, same⟩ := decimal.digitChars_eq
  have written : char ∈ digitChars decimal.digits := by
    rw [same]
    exact List.mem_append_left _ member
  exact Nat.isDigit_of_mem_toDigits (by decide) (by decide) written

/-- What is written of a decimal begins with a digit that is not zero. -/
theorem Decimal.shown_eq_cons {decimal : Decimal} (positive : 0 < decimal.digits) :
    ∃ first others, decimal.shown = first :: others ∧ first ≠ '0' := by
  -- The digits of a positive number do not begin with a zero, and they are not all taken off.
  obtain ⟨zeros, same⟩ := decimal.digitChars_eq
  cases shown : decimal.shown with
  | nil =>
    -- Digits that are all zeros would be those of zero.
    rw [shown, List.nil_append] at same
    cases zeros with
    | zero => exact absurd same Nat.toDigits_ne_nil
    | succ zeros => exact absurd rfl (Json.toDigits_head_ne positive same)
  | cons first others =>
    rw [shown] at same
    exact ⟨first, others, rfl, Json.toDigits_head_ne positive same⟩

/-- The zeros that are not written make the number that is written ten times as great. -/
theorem Decimal.digits_eq (decimal : Decimal) :
    ∃ zeros, (digitChars decimal.digits).length = decimal.shown.length + zeros ∧
      decimal.digits = 10 ^ zeros * Nat.ofDigitChars 10 decimal.shown 0 := by
  -- Each zero that is not shown stands for a factor of ten.
  obtain ⟨zeros, same⟩ := decimal.digitChars_eq
  have back : Nat.ofDigitChars 10 (digitChars decimal.digits) 0 = decimal.digits :=
    Nat.ofDigitChars_ten_toDigits
  refine ⟨zeros, ?_, ?_⟩
  · rw [same, List.length_append, List.length_replicate]
  · rw [← Nat.ofDigitChars_replicate_zero, ← Nat.ofDigitChars_append, ← same, back]

/-- The number that is written is at most the number of all digits. -/
theorem Decimal.shown_le (decimal : Decimal) :
    Nat.ofDigitChars 10 decimal.shown 0 ≤ decimal.digits := by
  obtain ⟨zeros, _, same⟩ := decimal.digits_eq
  have scaled := Nat.le_mul_of_pos_left (Nat.ofDigitChars 10 decimal.shown 0)
    (Nat.pow_pos (show 0 < 10 by omega) : 0 < 10 ^ zeros)
  omega

end Double

namespace Json

open Double

/-- A power of ten that fits 31 bits is read from its digits. -/
theorem gatherPower_eq (digits : List Char) (start : Nat) {rest : List Char}
    (all : ∀ char ∈ digits, char.isDigit = true)
    (fits : Nat.ofDigitChars 10 digits start < 2 ^ 31)
    (stops : ∀ char ∈ rest.head?, char.isDigit = false) :
    gatherPower start (digits ++ rest) = .ok (Nat.ofDigitChars 10 digits start, rest) := by
  -- By induction on the digits: the value only grows, so no prefix of them exceeds the bound.
  induction digits generalizing start with
  | nil =>
    cases rest with
    | nil => rfl
    | cons char rest =>
      rw [List.nil_append, gatherPower, if_neg (by simp [stops char rfl])]
      rfl
  | cons char others ih =>
    rw [Nat.ofDigitChars_cons] at fits ⊢
    have grows := le_ofDigitChars others (10 * start + (char.toNat - '0'.toNat))
    have value : digitValue char = char.toNat - '0'.toNat := rfl
    rw [List.cons_append, gatherPower, if_pos (all char List.mem_cons_self), value,
      if_pos (Nat.lt_of_le_of_lt grows fits)]
    exact ih _ (fun char member => all char (List.mem_cons_of_mem _ member)) fits

/-- The decimals of a number are read behind its point. -/
theorem readBehindWhole_point (negative : Bool) (whole : Nat) {decimals rest : List Char}
    (nonempty : decimals ≠ []) (all : ∀ char ∈ decimals, char.isDigit = true)
    (fits : Nat.ofDigitChars 10 decimals whole < 2 ^ 64)
    (stops : ∀ char ∈ rest.head?, char.isDigit = false) :
    readBehindWhole negative whole 0 ('.' :: decimals ++ rest) =
      readScale negative (Nat.ofDigitChars 10 decimals whole) (-(decimals.length : Int)) rest := by
  -- All digits behind the point are gathered, and each of them lowers the power by one.
  have gathered := gatherDigits_eq decimals whole 0 fits
  have empty : decimals.isEmpty = false := by simpa using nonempty
  simp only [List.cons_append, readBehindWhole, takeWhile_isDigit all stops,
    dropWhile_isDigit all stops, empty, Bool.false_eq_true, if_false, gathered]
  congr 1
  omega

/-- A number without a power of ten ends behind its digits. -/
theorem readScale_of_ends (negative : Bool) (significand : Nat) (power : Int) {rest : List Char}
    (ends : Ends rest) :
    readScale negative significand power rest = finishFloat negative significand power rest := by
  -- What ends a number is not the letter of a power.
  cases rest with
  | nil => rfl
  | cons char rest =>
    obtain ⟨_, _, small, large⟩ := ends char rfl
    unfold readScale
    split
    · exact absurd (List.cons.inj ‹_›).1 small
    · exact absurd (List.cons.inj ‹_›).1 large
    · rfl

/-- The power of ten is read behind its letter and its sign. -/
theorem readScale_exponent (negative : Bool) (significand : Nat) (start exponent : Int)
    (near : exponent.natAbs < 2 ^ 31) {rest : List Char}
    (stops : ∀ char ∈ rest.head?, char.isDigit = false) :
    readScale negative significand start
        ('e' :: (if exponent < 0 then '-' else '+') :: digitChars exponent.natAbs ++ rest) =
      finishFloat negative significand (start + exponent) rest := by
  -- The power is written with its sign and at least one digit, and the digits are gathered whole.
  have all : ∀ char ∈ digitChars exponent.natAbs, char.isDigit = true := fun char member =>
    Nat.isDigit_of_mem_toDigits (by decide) (by decide) member
  have back : Nat.ofDigitChars 10 (digitChars exponent.natAbs) 0 = exponent.natAbs :=
    Nat.ofDigitChars_ten_toDigits
  have gathered := gatherPower_eq (digitChars exponent.natAbs) 0 all (by rw [back]; exact near) stops
  rw [back] at gathered
  cases written : digitChars exponent.natAbs with
  | nil => exact absurd written Nat.toDigits_ne_nil
  | cons first others =>
    rw [written] at all gathered
    have digit := all first List.mem_cons_self
    rw [List.cons_append] at gathered
    by_cases down : exponent < 0
    · simp only [if_pos down, List.cons_append, readScale, readPower, digit, if_true, gathered]
      congr 1
      omega
    · simp only [if_neg down, List.cons_append, readScale, readPower, digit, if_true, gathered,
        Bool.false_eq_true, if_false]
      congr 1
      omega

/-- So many digits make a number below the power of ten. -/
theorem ofDigitChars_lt_pow (digits : List Char) (all : ∀ char ∈ digits, char.isDigit = true) :
    Nat.ofDigitChars 10 digits 0 < 10 ^ digits.length := by
  -- By induction on the digits, the first of which is nine at most.
  induction digits with
  | nil => decide
  | cons char others ih =>
    have rest := ih fun char member => all char (List.mem_cons_of_mem _ member)
    have digit : char.toNat - '0'.toNat ≤ 9 := by
      have inside := all char List.mem_cons_self
      simp only [Char.isDigit, Bool.and_eq_true, decide_eq_true_eq] at inside
      exact Nat.sub_le_of_le_add (UInt32.le_iff_toNat_le.1 inside.2)
    rw [Nat.ofDigitChars_cons, Nat.ofDigitChars_eq_ofDigitChars_zero, List.length_cons, Nat.pow_succ,
      Nat.mul_zero, Nat.zero_add]
    have scaled := Nat.mul_le_mul_left (10 ^ others.length) digit
    omega

/-- A number with a point is read behind its sign. -/
theorem readNumber_point (negative : Bool) {first : Char} {others decimals rest : List Char}
    (all : ∀ char ∈ first :: others, char.isDigit = true) (leading : first = '0' → others = [])
    (nonempty : decimals ≠ []) (allBehind : ∀ char ∈ decimals, char.isDigit = true)
    (fits : Nat.ofDigitChars 10 (first :: others ++ decimals) 0 < 2 ^ 64)
    (stops : ∀ char ∈ rest.head?, char.isDigit = false) :
    readNumber negative (first :: others ++ '.' :: decimals ++ rest) =
      readScale negative (Nat.ofDigitChars 10 (first :: others ++ decimals) 0)
        (-(decimals.length : Int)) rest := by
  -- The reader takes the whole digits up to the point, and goes on with the value that they have.
  rw [Nat.ofDigitChars_append] at fits ⊢
  have wholeFits := Nat.lt_of_le_of_lt (le_ofDigitChars decimals _) fits
  rw [List.append_assoc, readNumber_digits negative all leading wholeFits ?_,
    readBehindWhole_point negative _ nonempty allBehind fits stops]
  rintro char ⟨⟩
  decide

section Layout

variable {decimal : Decimal}

/-- At most eighteen digits are written. -/
theorem length_shown_le (written : decimal.IsWritten) : decimal.shown.length ≤ 18 := by
  obtain ⟨zeros, lengths, _⟩ := decimal.digits_eq
  have few : (digitChars decimal.digits).length ≤ 18 :=
    (Nat.length_toDigits_le_iff (by decide) (by decide)).2
      (Nat.lt_of_le_of_lt written.short (by decide))
  omega

/-- Digits that are filled up with zeros are digits, wherever they are cut. -/
theorem isDigit_of_mem_take_filled {digits : List Char} (all : ∀ char ∈ digits, char.isDigit = true)
    {zeros count : Nat} {char : Char}
    (member : char ∈ (digits ++ List.replicate zeros '0').take count) : char.isDigit = true := by
  rcases List.mem_append.1 (List.mem_of_mem_take member) with given | filled
  · exact all char given
  · rw [List.eq_of_mem_replicate filled]
    decide

/-- Where no digits are left for behind the point, one zero stands there. -/
theorem decimals_of_left (left : List Char) (all : ∀ char ∈ left, char.isDigit = true) :
    ∃ decimals, (if left.isEmpty then ['0'] else left) = decimals ∧ decimals ≠ [] ∧
      (∀ char ∈ decimals, char.isDigit = true) ∧ decimals.length ≤ max 1 left.length := by
  cases left with
  | nil => exact ⟨['0'], rfl, List.cons_ne_nil _ _, by simp, Nat.le_refl 1⟩
  | cons first others => exact ⟨_, rfl, List.cons_ne_nil _ _, all, Nat.le_max_right ..⟩

/-- A decimal with its point behind or among its digits is a significand over a power of ten. -/
theorem readNumber_layout_whole (written : decimal.IsWritten)
    (point : 0 < decimal.point ∧ decimal.point ≤ 16) :
    ∃ significand below, significand ≤ 2 ^ 64 ∧ ∀ negative rest, Ends rest →
      readNumber negative (layout decimal ++ rest) =
        finishFloat negative significand (.negSucc below) rest := by
  -- The point stands among the digits or behind zeros, and a zero fills an empty fraction.
  obtain ⟨first, others, shown, leading⟩ := Decimal.shown_eq_cons written.positive
  obtain ⟨before, places⟩ : ∃ before, decimal.point.toNat = before + 1 :=
    ⟨decimal.point.toNat - 1, by omega⟩
  have laid : layout decimal =
      (decimal.shown ++ List.replicate (decimal.point.toNat - decimal.shown.length) '0').take
          decimal.point.toNat ++
        '.' :: (if (decimal.shown.drop decimal.point.toNat).isEmpty then ['0']
          else decimal.shown.drop decimal.point.toNat) := by
    unfold layout
    exact if_pos point
  have digits : ∀ char ∈ decimal.shown, char.isDigit = true := fun char member =>
    Decimal.isDigit_of_mem_shown member
  have few := length_shown_le written
  -- The digits in front of the point are those of the decimal, filled up with zeros.
  have front : ∀ char ∈ (decimal.shown ++ List.replicate (decimal.point.toNat -
      decimal.shown.length) '0').take decimal.point.toNat, char.isDigit = true := fun char member =>
    isDigit_of_mem_take_filled digits member
  obtain ⟨decimals, same, nonempty, behind, decimalsLength⟩ := decimals_of_left
    (decimal.shown.drop decimal.point.toNat) fun char member =>
      digits char (List.mem_of_mem_drop member)
  rw [same] at laid
  rw [List.length_drop, places, shown, List.length_cons] at decimalsLength
  rw [shown, List.length_cons] at few
  -- The first digit stands in front of the point, and it is not zero.
  rw [places, shown, List.cons_append, List.take_succ_cons] at laid front
  have wholeLength := List.length_take_le before
    (others ++ List.replicate (before + 1 - (first :: others).length) '0')
  generalize (others ++ List.replicate (before + 1 - (first :: others).length) '0').take before =
    whole at laid front wholeLength
  have fits : Nat.ofDigitChars 10 (first :: whole ++ decimals) 0 < 2 ^ 64 := by
    have bound := ofDigitChars_lt_pow (first :: whole ++ decimals) fun char member =>
      (List.mem_append.1 member).elim (front char) (behind char)
    have short : (first :: whole ++ decimals).length ≤ 18 := by
      simp only [List.length_append, List.length_cons]
      omega
    have power : 10 ^ (first :: whole ++ decimals).length ≤ 10 ^ 18 :=
      Nat.pow_le_pow_right (by decide) short
    omega
  refine ⟨_, decimals.length - 1, Nat.le_of_lt fits, fun negative rest ends => ?_⟩
  have power : -(decimals.length : Int) = .negSucc (decimals.length - 1) := by
    have positive := List.length_pos_iff.2 nonempty
    omega
  rw [laid, readNumber_point negative front (fun zero => absurd zero leading) nonempty behind fits
    fun char next => (ends char next).1, readScale_of_ends _ _ _ ends, power]

/-- A decimal with its point shortly before its digits is a significand over a power of ten. -/
theorem readNumber_layout_small (written : decimal.IsWritten)
    (point : -5 < decimal.point ∧ decimal.point ≤ 0) :
    ∃ significand below, significand ≤ 2 ^ 64 ∧ ∀ negative rest, Ends rest →
      readNumber negative (layout decimal ++ rest) =
        finishFloat negative significand (.negSucc below) rest := by
  -- The point is followed by zeros and then by the digits that are shown.
  obtain ⟨first, others, shown, _⟩ := Decimal.shown_eq_cons written.positive
  have laid : layout decimal =
      ['0'] ++ '.' :: (List.replicate (-decimal.point).toNat '0' ++ decimal.shown) := by
    unfold layout
    exact (if_neg (by omega)).trans (if_pos point)
  generalize (-decimal.point).toNat = zeros at laid
  have digits : ∀ char ∈ List.replicate zeros '0' ++ decimal.shown, char.isDigit = true := by
    intro char member
    rcases List.mem_append.1 member with filled | old
    · rw [List.eq_of_mem_replicate filled]
      decide
    · exact Decimal.isDigit_of_mem_shown old
  have nonempty : List.replicate zeros '0' ++ decimal.shown ≠ [] := by
    rw [shown]
    simp
  -- Zeros in front do not count.
  have value : Nat.ofDigitChars 10 (['0'] ++ (List.replicate zeros '0' ++ decimal.shown)) 0 =
      Nat.ofDigitChars 10 decimal.shown 0 := by
    have zero : Nat.ofDigitChars 10 ['0'] 0 = 0 := by decide
    rw [Nat.ofDigitChars_append, zero, Nat.ofDigitChars_append, Nat.ofDigitChars_replicate_zero,
      Nat.mul_zero]
  have fits : Nat.ofDigitChars 10 decimal.shown 0 < 2 ^ 64 := by
    have bound := decimal.shown_le
    have short := written.short
    omega
  refine ⟨_, (List.replicate zeros '0' ++ decimal.shown).length - 1, Nat.le_of_lt fits,
    fun negative rest ends => ?_⟩
  have power : -((List.replicate zeros '0' ++ decimal.shown).length : Int) =
      .negSucc ((List.replicate zeros '0' ++ decimal.shown).length - 1) := by
    have positive := List.length_pos_iff.2 nonempty
    omega
  rw [laid, readNumber_point negative (by simp) (fun _ => rfl) nonempty digits (by rw [value]; exact fits)
    fun char next => (ends char next).1, readScale_of_ends _ _ _ ends, power, value]

/-- A single digit with its point far off stands without a point. -/
theorem layout_far_single (near : ¬ (0 < decimal.point ∧ decimal.point ≤ 16))
    (small : ¬ (-5 < decimal.point ∧ decimal.point ≤ 0)) {first : Char}
    (shown : decimal.shown = [first]) :
    layout decimal = [first] ++ 'e' :: (if decimal.point - 1 < 0 then '-' else '+') ::
      digitChars (decimal.point - 1).natAbs := by
  unfold Decimal.shown at shown
  simp only [layout, if_neg near, if_neg small, shown]

/-- Of several digits with their point far off, the first one stands in front of a point. -/
theorem layout_far_cons (near : ¬ (0 < decimal.point ∧ decimal.point ≤ 16))
    (small : ¬ (-5 < decimal.point ∧ decimal.point ≤ 0)) {first second : Char} {others : List Char}
    (shown : decimal.shown = first :: second :: others) :
    layout decimal = [first] ++ '.' :: (second :: others) ++
      'e' :: (if decimal.point - 1 < 0 then '-' else '+') ::
        digitChars (decimal.point - 1).natAbs := by
  unfold Decimal.shown at shown
  simp only [layout, if_neg near, if_neg small, shown]
  rfl

/-- A decimal with its point far off is a significand with a power of ten. -/
theorem readNumber_layout_far (written : decimal.IsWritten)
    (near : ¬ (0 < decimal.point ∧ decimal.point ≤ 16))
    (small : ¬ (-5 < decimal.point ∧ decimal.point ≤ 0)) (negative : Bool) {rest : List Char}
    (ends : Ends rest) :
    readNumber negative (layout decimal ++ rest) =
      finishFloat negative (Nat.ofDigitChars 10 decimal.shown 0)
        (decimal.point - decimal.shown.length) rest := by
  -- The digits are written with a point behind the first one, if there are more, and then a power.
  obtain ⟨first, others, shown, leading⟩ := Decimal.shown_eq_cons written.positive
  have digits : ∀ char ∈ first :: others, char.isDigit = true := by
    intro char member
    exact Decimal.isDigit_of_mem_shown (shown ▸ member)
  have fits : Nat.ofDigitChars 10 (first :: others) 0 < 2 ^ 64 := by
    have bound := decimal.shown_le
    have short := written.short
    rw [shown] at bound
    omega
  have reach : (decimal.point - 1).natAbs < 2 ^ 31 := by
    have bounds := written.near
    omega
  have stops : ∀ char ∈ rest.head?, char.isDigit = false := fun char next => (ends char next).1
  have letter : ∀ char ∈ ('e' :: (if decimal.point - 1 < 0 then '-' else '+') ::
      digitChars (decimal.point - 1).natAbs ++ rest).head?, char.isDigit = false := by
    rintro char ⟨⟩
    decide
  cases others with
  | nil =>
    -- Behind the digit the letter of the power follows at once.
    have read := readScale_exponent negative (Nat.ofDigitChars 10 [first] 0) 0 (decimal.point - 1)
      reach stops
    rw [layout_far_single near small shown, shown, List.append_assoc,
      readNumber_digits negative digits (fun _ => rfl) fits letter]
    have power : 0 + (decimal.point - 1) = decimal.point - ([first].length : Int) := by
      simp only [List.length_cons, List.length_nil]
      omega
    rw [← power, ← read]
    rfl
  | cons second others =>
    have read := readScale_exponent negative (Nat.ofDigitChars 10 (first :: second :: others) 0)
      (-((second :: others).length : Int)) (decimal.point - 1) reach stops
    have power : -((second :: others).length : Int) + (decimal.point - 1) =
        decimal.point - ((first :: second :: others).length : Int) := by
      simp only [List.length_cons]
      omega
    have front : ∀ char ∈ [first], char.isDigit = true := by
      intro char member
      obtain rfl := List.mem_singleton.1 member
      exact digits char List.mem_cons_self
    have behind : ∀ char ∈ second :: others, char.isDigit = true := fun char member =>
      digits char (List.mem_cons_of_mem _ member)
    rw [layout_far_cons near small shown, shown, List.append_assoc, readNumber_point negative front
      (fun _ => rfl) (List.cons_ne_nil _ _) behind fits letter, ← power, ← read]
    rfl

/-- The text of a decimal within the finite numbers is read as a finite number. -/
theorem readNumber_layout (written : decimal.IsWritten) :
    ∃ significand power, decimalRank significand power < magnitudes ∧
      ∀ negative rest, Ends rest → readNumber negative (layout decimal ++ rest) =
        finishFloat negative significand power rest := by
  -- With the point near its digits a decimal is a quotient, which never leaves the finite numbers.
  by_cases near : 0 < decimal.point ∧ decimal.point ≤ 16
  · obtain ⟨significand, below, small, read⟩ := readNumber_layout_whole written near
    exact ⟨significand, _, decimalRank_negSucc_lt small below, read⟩
  by_cases small : -5 < decimal.point ∧ decimal.point ≤ 0
  · obtain ⟨significand, below, small, read⟩ := readNumber_layout_small written small
    exact ⟨significand, _, decimalRank_negSucc_lt small below, read⟩
  refine ⟨Nat.ofDigitChars 10 decimal.shown 0, decimal.point - decimal.shown.length, ?_,
    fun negative rest ends => readNumber_layout_far written near small negative ends⟩
  have short : Nat.ofDigitChars 10 decimal.shown 0 ≤ 10 ^ 17 :=
    Nat.le_trans decimal.shown_le written.short
  cases power : decimal.point - decimal.shown.length with
  | negSucc below => exact decimalRank_negSucc_lt (Nat.le_trans short (by decide)) below
  | ofNat up =>
    -- The zeros that are not written are part of the power.
    obtain ⟨zeros, lengths, same⟩ := decimal.digits_eq
    have places : decimal.point - (digitChars decimal.digits).length = (up : Int) - zeros := by
      rw [lengths]
      simp only [Int.ofNat_eq_natCast] at power
      omega
    have bounded := written.bounded
    have scale := pow_toNat_mul_pow up zeros
    rw [places] at bounded
    refine decimalRank_ofNat_lt short (Nat.le_of_mul_le_mul_right ?_
      (Nat.pow_pos (by decide) : 0 < 10 ^ (-((up : Int) - zeros)).toNat))
    calc Nat.ofDigitChars 10 decimal.shown 0 * 10 ^ up * 10 ^ (-((up : Int) - zeros)).toNat
        = Nat.ofDigitChars 10 decimal.shown 0 *
            (10 ^ (-((up : Int) - zeros)).toNat * 10 ^ up) := by ac_rfl
      _ = 10 ^ zeros * Nat.ofDigitChars 10 decimal.shown 0 *
            10 ^ ((up : Int) - zeros).toNat := by rw [← scale]; ac_rfl
      _ = decimal.digits * 10 ^ ((up : Int) - zeros).toNat := by rw [← same]
      _ ≤ greatestWritten * 10 ^ (-((up : Int) - zeros)).toNat := bounded

end Layout

/-- A significand whose rank is finite makes a float. -/
theorem finishFloat_of_finite (negative : Bool) {significand : Nat} {power : Int}
    (finite : decimalRank significand power < magnitudes) (rest : List Char) :
    finishFloat negative significand power rest =
      .ok (.float ⟨negative, decimalRank significand power, finite⟩, rest) := by
  simp only [finishFloat, ofDecimal?, ofRank?, dif_pos finite]

end Json

namespace Double

/-- The text of a magnitude, which a minus sign may precede. -/
def magnitudeText (number : Double) : List Char :=
  if number.rank = 0 then ['0', '.', '0'] else layout (shortest number.rank)

/-- The text of a number is that of its magnitude behind its sign. -/
theorem render_eq (number : Double) :
    number.render =
      if number.negative then '-' :: number.magnitudeText else number.magnitudeText :=
  rfl

/-- The float that the text of a number is read as, which may be a neighbour of the number. -/
def reread (number : Double) : Double :=
  match Json.readNumber number.negative number.magnitudeText with
  | .ok (.float value, _) => value
  | _ => number

/-- The text of a finite number is read as a float, up to what ends it. -/
theorem readNumber_magnitudeText (number : Double) {rest : List Char} (ends : Json.Ends rest) :
    Json.readNumber number.negative (number.magnitudeText ++ rest) =
      .ok (.float number.reread, rest) := by
  -- Whatever follows, the same significand and power of ten are read.
  have same : ∃ significand power, decimalRank significand power < magnitudes ∧
      ∀ rest, Json.Ends rest → Json.readNumber number.negative (number.magnitudeText ++ rest) =
        Json.finishFloat number.negative significand power rest := by
    rw [magnitudeText]
    split
    · -- Zero is written with a point, so it is read as a float and keeps its sign.
      refine ⟨0, -1, by decide +kernel, fun rest ends => ?_⟩
      have zero : ∀ char ∈ ['0'], char.isDigit = true := by
        intro char member
        obtain rfl := List.mem_singleton.1 member
        decide
      have read : Json.readNumber number.negative ('0' :: [] ++ '.' :: ['0'] ++ rest) = _ :=
        Json.readNumber_point number.negative zero (fun _ => rfl) (List.cons_ne_nil _ _) zero
          (by decide) fun char next => (ends char next).1
      exact read.trans (Json.readScale_of_ends _ _ _ ends)
    · rename_i nonzero
      obtain ⟨significand, power, finite, read⟩ := Json.readNumber_layout
        (shortest_isWritten (Nat.pos_of_ne_zero nonzero) number.finite)
      exact ⟨significand, power, finite, read number.negative⟩
  obtain ⟨significand, power, finite, read⟩ := same
  -- What is read of the text alone is what it was named for.
  have alone := read [] Json.ends_nil
  rw [List.append_nil, Json.finishFloat_of_finite _ finite] at alone
  rw [read rest ends, Json.finishFloat_of_finite _ finite, reread, alone]

end Double

end DocView
