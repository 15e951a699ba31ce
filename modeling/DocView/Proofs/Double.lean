import DocView.Double

/-!
Rounding to binary64 keeps order: the greater of two quotients has no lower rank. Magnitudes ascend
with their ranks, each of them one last place above the one before.
-/

namespace DocView

section Quotient

variable {num den other otherDen : Nat}

/-- The greater of two quotients has no lower whole part. -/
theorem div_le_div_of_cross (positive : 0 < den) (otherPositive : 0 < otherDen)
    (ordered : num * otherDen ≤ other * den) : num / den ≤ other / otherDen := by
  -- The whole part is compared with the other quotient, and only then scaled by both denominators.
  refine (Nat.le_div_iff_mul_le otherPositive).2 (Nat.le_of_mul_le_mul_right ?_ positive)
  calc num / den * otherDen * den
      = num / den * den * otherDen := Nat.mul_right_comm ..
    _ ≤ num * otherDen := Nat.mul_le_mul_right _ (Nat.div_mul_le_self ..)
    _ ≤ other * den := ordered

/-- A rounded quotient is one of the two whole numbers around the quotient. -/
theorem roundDiv_bounds (num den : Nat) :
    num / den ≤ roundDiv num den ∧ roundDiv num den ≤ num / den + 1 := by
  simp only [roundDiv]
  split
  · omega
  · split <;> omega

/-- A quotient below a whole number is rounded to no more than that number. -/
theorem roundDiv_le {bound : Nat} (positive : 0 < den) (below : num < bound * den) :
    roundDiv num den ≤ bound := by
  have floor : num / den < bound := (Nat.div_lt_iff_lt_mul positive).2 below
  have upper := (roundDiv_bounds num den).2
  omega

/-- A quotient that reaches a whole number is rounded to no less than that number. -/
theorem le_roundDiv {bound : Nat} (positive : 0 < den) (reaches : bound * den ≤ num) :
    bound ≤ roundDiv num den := by
  have floor : bound ≤ num / den := (Nat.le_div_iff_mul_le positive).2 reaches
  have lower := (roundDiv_bounds num den).1
  omega

/-- The greater of two quotients is rounded to no less. -/
theorem roundDiv_le_roundDiv (positive : 0 < den) (otherPositive : 0 < otherDen)
    (ordered : num * otherDen ≤ other * den) : roundDiv num den ≤ roundDiv other otherDen := by
  -- The quotients are compared by their whole parts, and then by what is left over.
  have floors := div_le_div_of_cross positive otherPositive ordered
  rcases Nat.lt_or_eq_of_le floors with below | same
  · -- A whole step between the quotients leaves room for rounding up.
    have upper := (roundDiv_bounds num den).2
    have lower := (roundDiv_bounds other otherDen).1
    omega
  · -- With the same whole part, what is left over decides, and the order of that is known.
    have left : num / den * den + num % den = num := Nat.div_add_mod' num den
    have right : other / otherDen * otherDen + other % otherDen = other :=
      Nat.div_add_mod' other otherDen
    have rests : num % den * otherDen ≤ other % otherDen * den := by
      rw [← left, ← right, same, Nat.add_mul, Nat.add_mul,
        Nat.mul_right_comm _ otherDen den] at ordered
      omega
    -- So where the lesser one reaches a half or passes it, the greater one does too.
    have reaches : den ≤ 2 * (num % den) → otherDen ≤ 2 * (other % otherDen) := by
      intro half
      refine Nat.le_of_mul_le_mul_right ?_ positive
      have scaled := Nat.mul_le_mul_right otherDen half
      rw [Nat.mul_assoc] at scaled
      rw [Nat.mul_comm otherDen den, Nat.mul_assoc]
      omega
    have passes : den < 2 * (num % den) → otherDen < 2 * (other % otherDen) := by
      intro half
      refine Nat.lt_of_mul_lt_mul_right (a := den) ?_
      have scaled := Nat.mul_lt_mul_of_pos_right half otherPositive
      rw [Nat.mul_assoc] at scaled
      rw [Nat.mul_comm otherDen den, Nat.mul_assoc]
      omega
    simp only [roundDiv]
    rw [same]
    split
    · exact (roundDiv_bounds other otherDen).1
    · split <;> split <;> (try split) <;> omega

end Quotient

namespace Double

section Rank

variable {num den other otherDen : Nat}

/-- Of a quotient whose last bits are dropped, at most 53 bits are left, and 53 if any was dropped. -/
theorem dropped_bounds (quotient : Nat) :
    quotient < 2 ^ (quotient.log2 - 52) * 2 ^ 53 ∧
      (0 < quotient.log2 - 52 → 2 ^ (quotient.log2 - 52) * 2 ^ 52 ≤ quotient) := by
  -- A quotient lies between the powers of two that its logarithm names.
  have upper : quotient < 2 ^ (quotient.log2 + 1) := Nat.lt_log2_self
  rw [← Nat.pow_add, ← Nat.pow_add]
  constructor
  · exact Nat.lt_of_lt_of_le upper (Nat.pow_le_pow_right (by decide) (by omega))
  · -- A quotient of which bits are dropped is not zero, so its logarithm counts its bits.
    intro drops
    have nonzero : quotient ≠ 0 := by
      rintro rfl
      simp at drops
    have exponent : quotient.log2 - 52 + 52 = quotient.log2 := by omega
    rw [exponent]
    exact Nat.log2_self_le nonzero

/-- The place of a quotient within the block of its last place. -/
theorem nearestRank_bounds (num : Nat) (positive : 0 < den) :
    roundDiv (num <<< unitBits) (den <<< (Nat.log2 ((num <<< unitBits) / den) - 52)) ≤ 2 ^ 53 ∧
      (0 < Nat.log2 ((num <<< unitBits) / den) - 52 →
        2 ^ 52 ≤ roundDiv (num <<< unitBits)
          (den <<< (Nat.log2 ((num <<< unitBits) / den) - 52))) := by
  -- The quotient has 53 bits when the rest is dropped, and rounding stays within the powers of two.
  generalize num <<< unitBits = scaled
  obtain ⟨upper, lower⟩ := dropped_bounds (scaled / den)
  generalize Nat.log2 (scaled / den) - 52 = dropped at upper lower ⊢
  rw [Nat.shiftLeft_eq]
  -- Dropping the bits is dividing by a greater denominator, and rounding keeps whole bounds.
  have step : 0 < den * 2 ^ dropped := Nat.mul_pos positive (Nat.two_pow_pos _)
  constructor
  · refine roundDiv_le step ?_
    have below := (Nat.div_lt_iff_lt_mul positive).1 upper
    calc scaled < 2 ^ dropped * 2 ^ 53 * den := below
      _ = 2 ^ 53 * (den * 2 ^ dropped) := by
        rw [Nat.mul_comm (2 ^ dropped), Nat.mul_assoc, Nat.mul_comm (2 ^ dropped)]
  · intro drops
    refine le_roundDiv step ?_
    have reaches := (Nat.le_div_iff_mul_le positive).1 (lower drops)
    calc 2 ^ 52 * (den * 2 ^ dropped) = 2 ^ dropped * 2 ^ 52 * den := by
          rw [Nat.mul_comm (2 ^ dropped), Nat.mul_assoc, Nat.mul_comm (2 ^ dropped)]
      _ ≤ scaled := reaches

/-- The greater of two quotients has no lower rank. -/
theorem nearestRank_le_nearestRank (positive : 0 < den) (otherPositive : 0 < otherDen)
    (ordered : num * otherDen ≤ other * den) :
    nearestRank num den ≤ nearestRank other otherDen := by
  -- The block goes by the bits of the quotient, and the place in it by the rounded quotient.
  have scaled : num <<< unitBits * otherDen ≤ other <<< unitBits * den := by
    rw [Nat.shiftLeft_eq, Nat.shiftLeft_eq, Nat.mul_right_comm, Nat.mul_right_comm other]
    exact Nat.mul_le_mul_right _ ordered
  obtain ⟨upper, _⟩ := nearestRank_bounds num positive
  obtain ⟨_, lower⟩ := nearestRank_bounds other otherPositive
  simp only [nearestRank]
  generalize num <<< unitBits = first at scaled upper ⊢
  generalize other <<< unitBits = second at scaled lower ⊢
  have quotients := div_le_div_of_cross positive otherPositive scaled
  -- The greater quotient drops no fewer bits.
  have logs : Nat.log2 (first / den) - 52 ≤ Nat.log2 (second / otherDen) - 52 := by
    refine Nat.sub_le_sub_right ?_ 52
    rcases Nat.eq_zero_or_pos (first / den) with zero | occupied
    · rw [zero]
      exact Nat.zero_le _
    · have nonzero : second / otherDen ≠ 0 := by omega
      refine (Nat.le_log2 nonzero).2 ?_
      exact Nat.le_trans (Nat.log2_self_le (by omega)) quotients
  generalize Nat.log2 (first / den) - 52 = few at upper logs ⊢
  generalize Nat.log2 (second / otherDen) - 52 = many at lower logs ⊢
  rcases Nat.lt_or_eq_of_le logs with fewer | rfl
  · -- A later block begins where the earlier one ends.
    have reached := lower (by omega)
    omega
  · -- In one block the rounded quotients decide, both over a denominator scaled alike.
    refine Nat.add_le_add_left (roundDiv_le_roundDiv ?_ ?_ ?_) _
    · rw [Nat.shiftLeft_eq]
      exact Nat.mul_pos positive (Nat.two_pow_pos few)
    · rw [Nat.shiftLeft_eq]
      exact Nat.mul_pos otherPositive (Nat.two_pow_pos few)
    · rw [Nat.shiftLeft_eq, Nat.shiftLeft_eq, ← Nat.mul_assoc, ← Nat.mul_assoc]
      exact Nat.mul_le_mul_right _ scaled

end Rank

section Units

/-- Below the second block, magnitudes count single units. -/
theorem units_of_lt {rank : Nat} (low : rank < 2 ^ 52) : units rank = rank := by
  have first : rank / 2 ^ 52 = 0 := Nat.div_eq_of_lt low
  rw [units, significand, if_pos (Nat.lt_trans low (by decide)), shift, first]
  rfl

/-- In a block, a magnitude is a place among those of 53 bits, in units of the block. -/
theorem units_of_block (block : Nat) {place : Nat} (inside : place < 2 ^ 52) :
    units ((block + 1) * 2 ^ 52 + place) = (2 ^ 52 + place) * 2 ^ block := by
  -- The rank is the number of the block and the place in it, written as one number.
  have within : ((block + 1) * 2 ^ 52 + place) / 2 ^ 52 = block + 1 := by
    rw [Nat.mul_comm, Nat.mul_add_div (by decide), Nat.div_eq_of_lt inside, Nat.add_zero]
  have rest : ((block + 1) * 2 ^ 52 + place) % 2 ^ 52 = place := by
    rw [Nat.mul_comm, Nat.mul_add_mod, Nat.mod_eq_of_lt inside]
  rw [units, significand, shift, within, rest, Nat.shiftLeft_eq, Nat.add_sub_cancel]
  split
  · -- The second block is counted like the first one.
    obtain rfl : block = 0 := by omega
    rw [Nat.zero_add, Nat.one_mul]
  · rfl

/-- The next magnitude is one last place greater. -/
theorem units_succ (rank : Nat) : units (rank + 1) = units rank + 2 ^ shift rank := by
  -- The rank is taken apart into its block and the place in it.
  have parts : rank / 2 ^ 52 * 2 ^ 52 + rank % 2 ^ 52 = rank := Nat.div_add_mod' rank (2 ^ 52)
  have inside : rank % 2 ^ 52 < 2 ^ 52 := Nat.mod_lt _ (by decide)
  rw [shift]
  generalize rank / 2 ^ 52 = block at parts ⊢
  generalize rank % 2 ^ 52 = place at parts inside
  subst parts
  -- The next place is in the same block, or it is the first one of the next block.
  cases block with
  | zero =>
    rw [Nat.zero_mul, Nat.zero_add, units_of_lt inside]
    rcases Nat.lt_or_eq_of_le (Nat.succ_le_of_lt inside) with further | last
    · exact units_of_lt further
    · -- Behind the last place of the first block the second one begins.
      have next : place + 1 = (0 + 1) * 2 ^ 52 + 0 := by omega
      rw [next, units_of_block 0 (by decide)]
  | succ block =>
    rw [units_of_block block inside, Nat.add_sub_cancel]
    rcases Nat.lt_or_eq_of_le (Nat.succ_le_of_lt inside) with further | last
    · rw [Nat.add_assoc, ← Nat.succ_eq_add_one place, units_of_block block further,
        Nat.succ_eq_add_one, ← Nat.add_assoc, Nat.succ_mul]
    · -- The first place of the next block is counted in units that are twice as great.
      have next : (block + 1) * 2 ^ 52 + place + 1 = (block + 1 + 1) * 2 ^ 52 + 0 := by omega
      rw [next, units_of_block (block + 1) (by decide), Nat.pow_succ]
      have below : place = 2 ^ 52 - 1 := by omega
      subst below
      omega

/-- A magnitude has at most 53 bits above the last place of the one below. -/
theorem units_succ_le (rank : Nat) : units (rank + 1) ≤ 2 ^ 53 * 2 ^ shift rank := by
  -- A significand has 53 bits, so the one that follows it is at most the first of 54 bits.
  have bits : significand rank + 1 ≤ 2 ^ 53 := by
    rw [significand]
    split <;> omega
  rw [units_succ, units, Nat.shiftLeft_eq, ← Nat.succ_mul]
  exact Nat.mul_le_mul_right _ bits

/-- Magnitudes ascend with their ranks. -/
theorem units_le_units {rank other : Nat} (ordered : rank ≤ other) : units rank ≤ units other := by
  induction ordered with
  | refl => exact Nat.le_refl _
  | step _ ih =>
    rw [Nat.succ_eq_add_one, units_succ]
    exact Nat.le_trans ih (Nat.le_add_right ..)

/-- The magnitude of a lower rank is less. -/
theorem units_lt_units {rank other : Nat} (below : rank < other) : units rank < units other := by
  have step : units rank < units (rank + 1) := by
    rw [units_succ]
    exact Nat.lt_add_of_pos_right (Nat.two_pow_pos _)
  exact Nat.lt_of_lt_of_le step (units_le_units below)

/-- Different ranks have different magnitudes. -/
theorem units_inj {rank other : Nat} (same : units rank = units other) : rank = other := by
  rcases Nat.lt_trichotomy rank other with below | equal | above
  · exact absurd same (Nat.ne_of_lt (units_lt_units below))
  · exact equal
  · exact absurd same (Nat.ne_of_gt (units_lt_units above))

/-- The last place of a magnitude is no smaller than that of one below. -/
theorem shift_le_shift {rank other : Nat} (ordered : rank ≤ other) : shift rank ≤ shift other :=
  Nat.sub_le_sub_right (Nat.div_le_div_right ordered) 1

/-- No magnitude but the first is zero. -/
theorem units_pos {rank : Nat} (positive : 0 < rank) : 0 < units rank :=
  Nat.lt_of_lt_of_le (by decide) (units_le_units positive)

end Units

end Double

end DocView
