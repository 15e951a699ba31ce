import DocView.Double.Decimal
import DocView.Proofs.Double

/-!
Which decimals are read as finite numbers. A long significand may be rounded twice, so a decimal
just within the finite numbers could leave them; none leaves them that is at most the greatest
number as it is written.
-/

namespace DocView.Double

section Scaling

variable {rank other exponent further : Nat}

/-- The numbers nearest to powers of ten ascend with the powers. -/
theorem powerUnits_le (ordered : exponent ≤ further) : powerUnits exponent ≤ powerUnits further := by
  refine units_le_units (nearestRank_le_nearestRank (by decide) (by decide) ?_)
  exact Nat.mul_le_mul_right 1 (Nat.pow_le_pow_right (by decide) ordered)

/-- No number nearest to a power of ten is zero. -/
theorem powerUnits_pos (exponent : Nat) : 0 < powerUnits exponent := by
  -- The powers ascend, so it is enough that the first one is positive.
  have least : 0 < powerUnits 0 := by
    -- The first power is one, and so many bits are dropped from it that it is not of the first block.
    have log : (1 <<< unitBits / 1).log2 = unitBits := by
      rw [Nat.div_one, Nat.one_shiftLeft, Nat.log2_two_pow]
    rw [powerUnits, Nat.pow_zero]
    refine units_pos ?_
    unfold nearestRank
    dsimp only
    rw [log]
    exact Nat.add_pos_left (by decide) _
  exact Nat.lt_of_lt_of_le least (powerUnits_le (Nat.zero_le exponent))

/-- A greater number times a greater power of ten is no less. -/
theorem timesPower_le (ranks : rank ≤ other) (exponents : exponent ≤ further) :
    timesPower rank exponent ≤ timesPower other further := by
  have unit : 0 < 1 <<< (2 * unitBits) := by
    rw [Nat.one_shiftLeft]
    exact Nat.two_pow_pos _
  -- Both products are rounded over the same unit, so it is enough to compare them.
  refine nearestRank_le_nearestRank unit unit (Nat.mul_le_mul_right _ ?_)
  exact Nat.mul_le_mul (units_le_units ranks) (powerUnits_le exponents)

/-- A smaller number over a greater power of ten is no greater. -/
theorem overPower_le (ranks : rank ≤ other) (exponents : exponent ≤ further) :
    overPower rank further ≤ overPower other exponent :=
  nearestRank_le_nearestRank (powerUnits_pos _) (powerUnits_pos _)
    (Nat.mul_le_mul (units_le_units ranks) (powerUnits_le exponents))

/-- The rank of a significand as a number of its own. -/
theorem nearestRank_le_of_le {significand bound : Nat} (small : significand ≤ bound) :
    nearestRank significand 1 ≤ nearestRank bound 1 :=
  nearestRank_le_nearestRank (by decide) (by decide) (Nat.mul_le_mul_right 1 small)

end Scaling

/-- The rank of the least number above all significands of 64 bits. -/
def significandRank : Nat := nearestRank (2 ^ 64) 1

/-- That rank is finite, and the power of ten that is one does not raise it. -/
theorem significandRank_bounds :
    overPower significandRank 0 ≤ significandRank ∧ significandRank < magnitudes := by
  decide +kernel

/-- No number of a 64-bit significand leaves the significands when divided by a power of ten. -/
theorem overPower_le_significandRank {rank : Nat} (small : rank ≤ significandRank)
    (exponent : Nat) : overPower rank exponent ≤ significandRank :=
  -- The greatest of them over the least power, which is one, bounds all the others.
  Nat.le_trans (overPower_le small (Nat.zero_le exponent)) significandRank_bounds.1

/-- A significand over a power of ten is finite. -/
theorem decimalRank_negSucc_lt {significand : Nat} (small : significand ≤ 2 ^ 64) (below : Nat) :
    decimalRank significand (.negSucc below) < magnitudes := by
  -- Division makes nothing greater, so the rank stays below that of the greatest significand.
  have ranks : nearestRank significand 1 ≤ significandRank := nearestRank_le_of_le small
  have finite : significandRank < magnitudes := significandRank_bounds.2
  simp only [decimalRank]
  split
  · exact Nat.lt_of_le_of_lt (overPower_le_significandRank ranks _) finite
  · split
    · -- What is left of the first division is divided once more.
      have first := overPower_le_significandRank ranks greatestPower
      exact Nat.lt_of_le_of_lt (overPower_le_significandRank first _) finite
    · decide

/-- The greatest finite number as it is written, with seventeen digits. -/
def greatestWritten : Nat := 17976931348623157 * 10 ^ 292

/-- The greatest number that is written lies below the first power of ten that is not finite. -/
theorem greatestWritten_lt : greatestWritten < 10 ^ (greatestPower + 1) := by
  decide +kernel

/-- The greatest significands under the greatest powers of ten stay finite. -/
theorem timesPower_greatest_lt :
    ∀ up : Fin 17, timesPower (nearestRank (greatestWritten / 10 ^ (292 + up.val)) 1)
      (292 + up.val) < magnitudes := by
  decide +kernel

/-- Seventeen digits under the power of ten before these stay finite. -/
theorem timesPower_seventeen_lt : timesPower (nearestRank (10 ^ 17) 1) 291 < magnitudes := by
  decide +kernel

/-- Seventeen digits under a power of ten are finite, up to the greatest number that is written. -/
theorem decimalRank_ofNat_lt {significand power : Nat} (short : significand ≤ 10 ^ 17)
    (bounded : significand * 10 ^ power ≤ greatestWritten) :
    decimalRank significand (.ofNat power) < magnitudes := by
  -- A small power is bounded by the length of the significand, and a great one by the number
  -- itself.
  simp only [decimalRank]
  split
  · rename_i within
    rw [greatestPower] at within
    rcases Nat.lt_or_ge power 292 with low | high
    · -- Below, the greatest significand under the greatest power bounds the product.
      refine Nat.lt_of_le_of_lt ?_ timesPower_seventeen_lt
      exact timesPower_le (nearestRank_le_of_le short) (by omega)
    · -- Near the end the significand itself is bounded by what is left of the greatest number.
      obtain ⟨up, rfl⟩ : ∃ up, power = 292 + up := ⟨power - 292, by omega⟩
      have fits : significand ≤ greatestWritten / 10 ^ (292 + up) :=
        (Nat.le_div_iff_mul_le (Nat.pow_pos (by decide))).2 bounded
      refine Nat.lt_of_le_of_lt ?_ (timesPower_greatest_lt ⟨up, by omega⟩)
      exact timesPower_le (nearestRank_le_of_le fits) (Nat.le_refl _)
  · rename_i beyond
    -- Only zero stays below the greatest number under such a power.
    have zero : significand = 0 := by
      rcases Nat.eq_zero_or_pos significand with zero | positive
      · exact zero
      · have large : greatestWritten < 10 ^ power := by
          refine Nat.lt_of_lt_of_le greatestWritten_lt (Nat.pow_le_pow_right (by decide) ?_)
          omega
        have exceeds : 10 ^ power ≤ significand * 10 ^ power := Nat.le_mul_of_pos_left _ positive
        exact absurd bounded (Nat.not_le.2 (Nat.lt_of_lt_of_le large exceeds))
    subst zero
    have none : nearestRank 0 1 = 0 := by simp [nearestRank, roundDiv]
    rw [if_pos none]
    decide

end DocView.Double
