import DocView.Proofs.Double

/-!
Which whole numbers binary64 holds: all that lose nothing but zeros when they are cut to 53 bits.
Numbers at different places in its order have different values.
-/

namespace DocView

namespace Double

/-- The value of the number at a place in ascending order, counted in units of the least magnitude. -/
def signedUnits : Int → Int
  | .ofNat rank => units rank
  | .negSucc below => -(units (below + 1) : Int)

/-- Numbers at different places have different values. -/
theorem signedUnits_inj {place other : Int} (same : signedUnits place = signedUnits other) :
    place = other := by
  -- A negative number is less than zero, and numbers of one sign differ in their magnitudes.
  cases place with
  | ofNat rank =>
    cases other with
    | ofNat rankOther => rw [units_inj (Int.ofNat.inj same)]
    | negSucc below =>
      have positive : 0 < units (below + 1) := units_pos (by omega)
      have opposite : (units rank : Int) = -(units (below + 1) : Int) := same
      omega
  | negSucc below =>
    cases other with
    | ofNat rank =>
      have positive : 0 < units (below + 1) := units_pos (by omega)
      have opposite : -(units (below + 1) : Int) = units rank := same
      omega
    | negSucc belowOther =>
      have opposite : -(units (below + 1) : Int) = -(units (belowOther + 1) : Int) := same
      have ranks : below + 1 = belowOther + 1 := units_inj (by omega)
      rw [Nat.succ.inj ranks]

/-- A quotient that is a whole number is not changed by rounding. -/
theorem roundDiv_mul {den : Nat} (positive : 0 < den) (num : Nat) : roundDiv (den * num) den = num := by
  simp [roundDiv, Nat.mul_div_cancel_left num positive, positive]

/-- A whole number of which rounding drops only zeros is one of the magnitudes. -/
theorem units_nearestRank {num : Nat}
    (zeros : 2 ^ ((num <<< unitBits).log2 - 52) ∣ num <<< unitBits) :
    units (nearestRank num 1) = num <<< unitBits := by
  -- Dropping the zeros leaves a whole number of no more than 53 bits, which is kept as it is.
  simp only [nearestRank, Nat.div_one]
  generalize num <<< unitBits = scaled at zeros ⊢
  obtain ⟨upper, lower⟩ := dropped_bounds scaled
  generalize scaled.log2 - 52 = dropped at zeros upper lower ⊢
  obtain ⟨kept, rfl⟩ := zeros
  rw [Nat.shiftLeft_eq, Nat.one_mul, roundDiv_mul (Nat.two_pow_pos _)]
  have few : kept < 2 ^ 53 := Nat.lt_of_mul_lt_mul_left upper
  rcases Nat.lt_or_ge kept (2 ^ 52) with low | high
  · -- With so few bits nothing is dropped, and the number counts single units.
    obtain rfl : dropped = 0 := by
      refine Nat.eq_zero_of_not_pos fun drops => ?_
      have filled := Nat.le_of_mul_le_mul_left (lower drops) (Nat.two_pow_pos _)
      omega
    rw [Nat.zero_mul, Nat.zero_add, units_of_lt low, Nat.pow_zero, Nat.one_mul]
  · -- The bits that are kept tell the place within a block.
    have place : dropped * 2 ^ 52 + kept = (dropped + 1) * 2 ^ 52 + (kept - 2 ^ 52) := by omega
    have whole : 2 ^ 52 + (kept - 2 ^ 52) = kept := by omega
    rw [place, units_of_block dropped (by omega), whole, Nat.mul_comm]

/-- The number at a place below zero is that at the place above, with a minus sign. -/
theorem signedUnits_neg (rank : Nat) : signedUnits (-(rank : Int)) = -(units rank : Int) := by
  -- Zero has no number of the other sign beside it, and all others are mirrored one by one.
  cases rank with
  | zero => rfl
  | succ below => rfl

/-- Whole numbers up to the first that has 54 bits are magnitudes. -/
theorem units_nearestRank_of_le {num : Nat} (small : num ≤ 2 ^ 53) :
    units (nearestRank num 1) = num <<< unitBits := by
  -- Nothing is rounded if all of the bits that are dropped are zeros.
  refine units_nearestRank ?_
  rw [Nat.shiftLeft_eq]
  rcases Nat.lt_or_eq_of_le small with below | rfl
  · -- Of 53 bits none is dropped but the zeros that the unit brings.
    have dropped : (num * 2 ^ unitBits).log2 - 52 ≤ unitBits := by
      rcases Nat.eq_zero_or_pos (num * 2 ^ unitBits) with zero | positive
      · rw [zero]
        exact Nat.zero_le _
      · have bits : num * 2 ^ unitBits < 2 ^ (53 + unitBits) := by
          rw [Nat.pow_add]
          exact Nat.mul_lt_mul_of_pos_right below (Nat.two_pow_pos _)
        have log := (Nat.log2_lt (Nat.ne_of_gt positive)).2 bits
        omega
    exact Nat.dvd_trans (Nat.pow_dvd_pow 2 dropped) (Nat.dvd_mul_left _ _)
  · -- A power of two has nothing but zeros behind its first bit.
    rw [← Nat.pow_add, Nat.log2_two_pow]
    exact Nat.pow_dvd_pow 2 (Nat.sub_le _ _)

/-- Rounding leaves whole numbers of no more than 53 bits alone. -/
theorem signedUnits_ordinalOfInt {value : Int} (small : value.natAbs ≤ 2 ^ 53) :
    signedUnits (ordinalOfInt value) = value * (2 ^ unitBits : Nat) := by
  -- Both signs are rounded by their magnitudes.
  cases value with
  | ofNat num =>
    have same := units_nearestRank_of_le small
    rw [Nat.shiftLeft_eq] at same
    exact congrArg Int.ofNat same
  | negSucc below =>
    have same := units_nearestRank_of_le small
    rw [Nat.shiftLeft_eq, Int.natAbs_negSucc] at same
    rw [ordinalOfInt, signedUnits_neg, Int.negSucc_eq, same, Int.natCast_mul, Int.neg_mul]
    rfl

end Double

end DocView
