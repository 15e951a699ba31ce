import DocView.Double.Shortest
import DocView.Proofs.Double.Decimal

/-!
The shortest decimal of a finite magnitude. Seventeen digits always suffice, and what is written
for a finite number does not exceed the greatest one as it is written.
-/

namespace DocView.Double

/-- The quotient of two powers of ten, with one of the two sides always one. -/
theorem pow_toNat_mul_pow (more less : Nat) :
    10 ^ ((more : Int) - less).toNat * 10 ^ less = 10 ^ (-((more : Int) - less)).toNat * 10 ^ more := by
  rw [← Nat.pow_add, ← Nat.pow_add]
  congr 1
  omega

/-- Between which powers of ten the magnitudes lie, and under which number that is written. -/
theorem extreme_bounds :
    2 ^ unitBits ≤ 1 * 10 ^ 324 ∧ units (magnitudes - 1) * 10 ^ 324 < 10 ^ 633 * 2 ^ unitBits ∧
      units (magnitudes - 2) + units (magnitudes - 1) ≤ greatestWritten * 2 ^ (unitBits + 1) := by
  decide +kernel

/-- The place of the point brackets a positive magnitude between two powers of ten. -/
theorem pointOf_bounds {rank : Nat} (positive : 0 < rank) :
    ∃ length : Nat, pointOf rank = (length : Int) - 323 ∧
      10 ^ length * 2 ^ unitBits ≤ units rank * 10 ^ 324 ∧
      units rank * 10 ^ 324 < 10 ^ (length + 1) * 2 ^ unitBits := by
  -- The point is measured by the length of a quotient, with the scale chosen so that it is never
  -- zero.
  have unit : 0 < 2 ^ unitBits := Nat.two_pow_pos _
  have positiveWhole : 0 < units rank * 10 ^ 324 / 2 ^ unitBits := by
    have least := extreme_bounds.1
    generalize 10 ^ 324 = scale at least ⊢
    exact Nat.div_pos (Nat.le_trans least (Nat.mul_le_mul_right _ (units_pos positive))) unit
  -- The number of digits of a quotient tells between which powers of ten it lies.
  have lengths := @Nat.length_toDigits_le_iff 10 (units rank * 10 ^ 324 / 2 ^ unitBits)
  have written : 0 < (digitChars (units rank * 10 ^ 324 / 2 ^ unitBits)).length :=
    Nat.length_toDigits_pos
  obtain ⟨length, measured⟩ : ∃ length,
      (digitChars (units rank * 10 ^ 324 / 2 ^ unitBits)).length = length + 1 :=
    Nat.exists_eq_succ_of_ne_zero (Nat.ne_of_gt written)
  refine ⟨length, ?_, ?_, ?_⟩
  · rw [pointOf, measured]
    omega
  · refine (Nat.le_div_iff_mul_le unit).1 ?_
    rcases Nat.eq_zero_or_pos length with rfl | more
    · exact positiveWhole
    · -- One digit fewer would not hold the quotient.
      refine Nat.le_of_not_lt fun below => ?_
      have shorter := (lengths (by decide) more).2 below
      rw [digitChars] at measured
      omega
  · refine (Nat.div_lt_iff_lt_mul unit).1 ?_
    refine (lengths (by decide) (Nat.succ_pos length)).1 (Nat.le_of_eq ?_)
    exact measured

/-- The point of a finite magnitude is at most 323 places off to either side. -/
theorem pointOf_near {rank : Nat} (positive : 0 < rank) (finite : rank < magnitudes) :
    -323 ≤ pointOf rank ∧ pointOf rank < 323 := by
  -- The point grows with the magnitude, and both ends of the magnitudes are known.
  obtain ⟨length, point, reaches, _⟩ := pointOf_bounds positive
  have greatest := extreme_bounds.2.1
  have below : units rank * 10 ^ 324 ≤ units (magnitudes - 1) * 10 ^ 324 :=
    Nat.mul_le_mul_right _ (units_le_units (by omega))
  -- The power of ten below the magnitude is below the greatest magnitude too.
  have powers : 10 ^ length < 10 ^ 633 :=
    Nat.lt_of_mul_lt_mul_right (Nat.lt_of_le_of_lt (Nat.le_trans reaches below) greatest)
  have short := (Nat.pow_lt_pow_iff_right (by decide)).1 powers
  omega

/-- A rounded quotient is at most half a step away from the quotient. -/
theorem roundDiv_near (num : Nat) {den : Nat} (positive : 0 < den) :
    2 * num ≤ 2 * (roundDiv num den * den) + den ∧ 2 * (roundDiv num den * den) ≤ 2 * num + den := by
  -- The quotient is rounded down if the rest is less than a half, and up if it is more.
  have parts : num / den * den + num % den = num := Nat.div_add_mod' num den
  have rest : num % den < den := Nat.mod_lt _ positive
  generalize step : num / den * den = floor at parts
  have next : (num / den + 1) * den = floor + den := by rw [Nat.succ_mul, step]
  simp only [roundDiv]
  split
  · rw [step]
    omega
  · split
    · rw [next]
      omega
    · -- In the middle either neighbour will do.
      rcases Nat.mod_two_eq_zero_or_one (num / den) with even | odd
      · rw [even, Nat.add_zero, step]
        omega
      · rw [odd, next]
        omega

section Grid

-- A step of the grid of so many digits is `down / up`, and the magnitude is counted in units.
variable {magnitude unit start length more up down : Nat}

/-- On the grid of so many digits, a magnitude has no fewer digits. -/
theorem le_grid (scale : down * 10 ^ (start + more) = up * 10 ^ length)
    (reaches : 10 ^ length * unit ≤ magnitude * 10 ^ start) :
    10 ^ more * (down * unit) ≤ magnitude * up := by
  -- Both sides are scaled by the same power of ten, so that no fraction is left.
  refine Nat.le_of_mul_le_mul_right ?_ (Nat.pow_pos (by decide) : 0 < 10 ^ start)
  calc 10 ^ more * (down * unit) * 10 ^ start
      = down * 10 ^ (start + more) * unit := by rw [Nat.pow_add]; ac_rfl
    _ = up * (10 ^ length * unit) := by rw [scale, Nat.mul_assoc]
    _ ≤ up * (magnitude * 10 ^ start) := Nat.mul_le_mul_left _ reaches
    _ = magnitude * up * 10 ^ start := by ac_rfl

/-- On the grid of so many digits, a magnitude has no more digits. -/
theorem grid_lt (positive : 0 < up) (scale : down * 10 ^ (start + more) = up * 10 ^ length)
    (below : magnitude * 10 ^ start < 10 ^ (length + 1) * unit) :
    magnitude * up < 10 ^ (more + 1) * (down * unit) := by
  -- Both sides are scaled by the same power of ten, so that no fraction is left.
  refine Nat.lt_of_mul_lt_mul_right (a := 10 ^ start) ?_
  calc magnitude * up * 10 ^ start
      = up * (magnitude * 10 ^ start) := by ac_rfl
    _ < up * (10 ^ (length + 1) * unit) := Nat.mul_lt_mul_of_pos_left below positive
    _ = up * 10 ^ length * (10 * unit) := by rw [Nat.pow_succ]; ac_rfl
    _ = 10 ^ (more + 1) * (down * unit) * 10 ^ start := by
      rw [← scale, Nat.pow_add, Nat.pow_succ]
      ac_rfl

/-- The grid of seventeen digits is finer than the last place of the magnitude below. -/
theorem grid_fine {before : Nat} (positive : 0 < up)
    (scale : down * 10 ^ (start + 16) = up * 10 ^ length)
    (reaches : 10 ^ length * unit ≤ units (before + 1) * 10 ^ start) :
    down * unit < 2 ^ shift before * up := by
  -- The magnitude has seventeen digits on the grid and at most 53 bits, and 2 ^ 53 < 10 ^ 16.
  refine Nat.lt_of_mul_lt_mul_left (a := 10 ^ 16) ?_
  calc 10 ^ 16 * (down * unit)
      ≤ units (before + 1) * up := le_grid scale reaches
    _ ≤ 2 ^ 53 * 2 ^ shift before * up := Nat.mul_le_mul_right _ (units_succ_le before)
    _ = 2 ^ 53 * (2 ^ shift before * up) := Nat.mul_assoc ..
    _ < 10 ^ 16 * (2 ^ shift before * up) :=
      Nat.mul_lt_mul_of_pos_right (by decide) (Nat.mul_pos (Nat.two_pow_pos _) positive)

end Grid

section Search

variable {rank digits more : Nat}

/-- A decimal that is found is one of the two on the grid around the magnitude, and rounds to it. -/
theorem of_withDigits? {point : Int} {count : Nat}
    (found : withDigits? rank point count = some digits) :
    units rank * 10 ^ (-(point - count)).toNat / (10 ^ (point - count).toNat * 2 ^ unitBits) ≤
        digits ∧
      digits ≤
        units rank * 10 ^ (-(point - count)).toNat / (10 ^ (point - count).toNat * 2 ^ unitBits) + 1 ∧
      roundsTo rank digits (10 ^ (-(point - count)).toNat) (10 ^ (point - count).toNat) = true := by
  -- The search tries the whole numbers on both sides of the scaled magnitude and no others.
  unfold withDigits? at found
  dsimp only at found
  generalize 10 ^ (-(point - count)).toNat = up at found ⊢
  generalize 10 ^ (point - count).toNat = down at found ⊢
  -- The nearest of the two is tried first, and then the other one.
  have near := roundDiv_bounds (units rank * up) (down * 2 ^ unitBits)
  generalize units rank * up / (down * 2 ^ unitBits) = below at found near ⊢
  generalize roundDiv (units rank * up) (down * 2 ^ unitBits) = nearest at found near
  have beside : below ≤ (if nearest = below then below + 1 else below) ∧
      (if nearest = below then below + 1 else below) ≤ below + 1 := by
    split <;> omega
  generalize (if nearest = below then below + 1 else below) = other at found beside
  split at found
  · rename_i rounds
    obtain rfl := Option.some.inj found
    exact ⟨near.1, near.2, rounds⟩
  · split at found
    · rename_i rounds
      obtain rfl := Option.some.inj found
      exact ⟨beside.1, beside.2, rounds⟩
    · cases found

/-- A decimal of so many digits has one that is not zero, and may be the next power of ten. -/
theorem withDigits?_bounds (positive : 0 < rank)
    (found : withDigits? rank (pointOf rank) (more + 1) = some digits) :
    10 ^ more ≤ digits ∧ digits ≤ 10 ^ (more + 1) := by
  -- The point says between which powers of ten the magnitude lies, and so how long its whole part
  -- is.
  obtain ⟨length, point, reaches, below⟩ := pointOf_bounds positive
  obtain ⟨atLeast, atMost, _⟩ := of_withDigits? found
  have places : pointOf rank - (more + 1 : Nat) = (length : Int) - (324 + more : Nat) := by omega
  rw [places] at atLeast atMost
  have scale := pow_toNat_mul_pow length (324 + more)
  have someUp : 0 < 10 ^ (-((length : Int) - (324 + more : Nat))).toNat := Nat.pow_pos (by decide)
  have someDown : 0 < 10 ^ ((length : Int) - (324 + more : Nat)).toNat := Nat.pow_pos (by decide)
  generalize 10 ^ (-((length : Int) - (324 + more : Nat))).toNat = up at *
  generalize 10 ^ ((length : Int) - (324 + more : Nat)).toNat = down at *
  -- The whole part has exactly so many digits, and the decimal is at most one more.
  have unit : 0 < down * 2 ^ unitBits := Nat.mul_pos someDown (Nat.two_pow_pos _)
  have lower := (Nat.le_div_iff_mul_le unit).2 (le_grid scale reaches)
  have upper := (Nat.div_lt_iff_lt_mul unit).2 (grid_lt someUp scale below)
  omega

/-- A decimal strictly between the middles to both neighbours rounds to the magnitude. -/
theorem roundsTo_of_lt {candidate up down : Nat}
    (low : (units (rank - 1) + units rank) * up < candidate * down * 2 ^ (unitBits + 1))
    (high : candidate * down * 2 ^ (unitBits + 1) < (units rank + units (rank + 1)) * up) :
    roundsTo rank candidate up down = true := by
  -- The strict bounds are enough, whether or not the middles themselves round to the rank.
  unfold roundsTo
  dsimp only
  generalize candidate * down * 2 ^ (unitBits + 1) = twice at low high ⊢
  -- Only an even rank includes the middles themselves.
  split
  · simp only [Nat.le_of_lt low, Nat.le_of_lt high, decide_true, Bool.and_self]
  · simp only [low, high, decide_true, Bool.and_self]

/-- A decimal that rounds to a magnitude below the greatest one exceeds no number that is written. -/
theorem roundsTo_bounded {up down : Nat} (inner : rank + 1 < magnitudes)
    (rounds : roundsTo rank digits up down = true) : digits * down ≤ greatestWritten * up := by
  -- A decimal that rounds to the rank does not exceed the middle above it.
  have twice : digits * down * 2 ^ (unitBits + 1) ≤ (units rank + units (rank + 1)) * up := by
    unfold roundsTo at rounds
    dsimp only at rounds
    split at rounds
    · simp only [Bool.and_eq_true, decide_eq_true_eq] at rounds
      exact rounds.2
    · simp only [Bool.and_eq_true, decide_eq_true_eq] at rounds
      exact Nat.le_of_lt rounds.2
  -- The middle between the two greatest magnitudes bounds it.
  have middle : units rank + units (rank + 1) ≤ greatestWritten * 2 ^ (unitBits + 1) := by
    refine Nat.le_trans (Nat.add_le_add (units_le_units ?_) (units_le_units ?_)) extreme_bounds.2.2
    · omega
    · omega
  refine Nat.le_of_mul_le_mul_right ?_ (Nat.two_pow_pos (unitBits + 1))
  calc digits * down * 2 ^ (unitBits + 1)
      ≤ (units rank + units (rank + 1)) * up := twice
    _ ≤ greatestWritten * 2 ^ (unitBits + 1) * up := Nat.mul_le_mul_right _ middle
    _ = greatestWritten * up * 2 ^ (unitBits + 1) := Nat.mul_right_comm ..

/-- The decimal of seventeen digits nearest to a magnitude rounds to it. -/
theorem withDigits?_seventeen (positive : 0 < rank) :
    ∃ digits, withDigits? rank (pointOf rank) 17 = some digits := by
  -- Seventeen digits are finer than the gaps, so the nearest decimal rounds back.
  obtain ⟨length, point, reaches, _⟩ := pointOf_bounds positive
  -- The gap to the magnitude below is the smaller one of the two around a magnitude.
  obtain ⟨before, rfl⟩ : ∃ before, rank = before + 1 :=
    Nat.exists_eq_succ_of_ne_zero (Nat.ne_of_gt positive)
  have places : pointOf (before + 1) - (17 : Nat) = (length : Int) - (324 + 16 : Nat) := by omega
  have scale := pow_toNat_mul_pow length (324 + 16)
  have someUp : 0 < 10 ^ (-((length : Int) - (324 + 16 : Nat))).toNat := Nat.pow_pos (by decide)
  have someDown : 0 < 10 ^ ((length : Int) - (324 + 16 : Nat)).toNat := Nat.pow_pos (by decide)
  have fine : 10 ^ ((length : Int) - (324 + 16 : Nat)).toNat * 2 ^ unitBits <
      2 ^ shift before * 10 ^ (-((length : Int) - (324 + 16 : Nat))).toNat :=
    grid_fine someUp scale reaches
  unfold withDigits?
  rw [places]
  dsimp only
  generalize 10 ^ (-((length : Int) - (324 + 16 : Nat))).toNat = up at fine ⊢
  generalize 10 ^ ((length : Int) - (324 + 16 : Nat)).toNat = down at someDown fine ⊢
  refine ⟨_, if_pos ?_⟩
  have near := roundDiv_near (units (before + 1) * up)
    (Nat.mul_pos someDown (Nat.two_pow_pos unitBits))
  generalize roundDiv (units (before + 1) * up) (down * 2 ^ unitBits) = nearest at near ⊢
  have twice (unit : Nat) : nearest * down * (unit * 2) = 2 * (nearest * (down * unit)) := by
    ac_rfl
  -- Half a step is less than half a last place on either side.
  have low : (units before + units (before + 1)) * up < nearest * down * 2 ^ (unitBits + 1) := by
    have place : units (before + 1) * up = units before * up + 2 ^ shift before * up := by
      rw [units_succ, Nat.add_mul]
    rw [Nat.add_mul, Nat.pow_succ, twice]
    omega
  have high : nearest * down * 2 ^ (unitBits + 1) <
      (units (before + 1) + units (before + 1 + 1)) * up := by
    have next : units (before + 1) * up + 2 ^ shift before * up ≤ units (before + 1 + 1) * up := by
      rw [units_succ (before + 1), ← Nat.add_mul]
      refine Nat.mul_le_mul_right _ (Nat.add_le_add_left ?_ _)
      exact Nat.pow_le_pow_right (by decide) (shift_le_shift (Nat.le_succ before))
    rw [Nat.add_mul, Nat.pow_succ, twice]
    omega
  exact roundsTo_of_lt low high

/-- The search ends at a decimal of at most seventeen digits. -/
theorem shortest_eq (positive : 0 < rank) :
    ∃ digits more, more < 17 ∧ withDigits? rank (pointOf rank) (more + 1) = some digits ∧
      shortest rank =
        ⟨digits, pointOf rank + ((digitChars digits).length - (more + 1 : Nat))⟩ := by
  -- The search finds a count at the seventeenth digit at the latest, and the first one is taken.
  obtain ⟨last, seventeen⟩ := withDigits?_seventeen positive
  simp only [shortest]
  split
  · rename_i digits count found
    obtain ⟨more, listed, here⟩ := List.exists_of_findSome?_eq_some found
    obtain ⟨candidate, given, pair⟩ := Option.map_eq_some_iff.1 here
    obtain ⟨rfl, rfl⟩ := Prod.mk.inj pair
    exact ⟨candidate, more, List.mem_range.1 listed, given, rfl⟩
  · rename_i missed
    -- The search does not pass by the seventeenth digit.
    have missing := List.findSome?_eq_none_iff.1 missed 16 (by decide)
    rw [Option.map_eq_none_iff, seventeen] at missing
    cases missing

end Search

/-- A decimal of at most seventeen digits within the finite numbers as they are written. -/
structure Decimal.IsWritten (decimal : Decimal) : Prop where
  /-- Only zero has no digit that counts. -/
  positive : 0 < decimal.digits
  /-- Rounding up may lead to the next power of ten. -/
  short : decimal.digits ≤ 10 ^ 17
  /-- The power of ten has at most three digits. -/
  near : -400 < decimal.point ∧ decimal.point < 400
  /-- No number that is written exceeds the greatest one. -/
  bounded : decimal.digits * 10 ^ (decimal.point - (digitChars decimal.digits).length).toNat ≤
    greatestWritten * 10 ^ (-(decimal.point - (digitChars decimal.digits).length)).toNat

/-- The greatest number has seventeen digits. -/
theorem shortest_greatest : shortest (magnitudes - 1) = ⟨17976931348623157, 309⟩ := by
  decide +kernel

/-- What is written for a finite magnitude stays within the finite numbers as they are written. -/
theorem shortest_isWritten {rank : Nat} (positive : 0 < rank) (finite : rank < magnitudes) :
    (shortest rank).IsWritten := by
  -- The greatest number has no finite neighbour above it, so it is looked at by itself.
  rcases Nat.lt_or_ge (rank + 1) magnitudes with inner | last
  · obtain ⟨digits, more, few, found, same⟩ := shortest_eq positive
    obtain ⟨_, _, rounds⟩ := of_withDigits? found
    obtain ⟨lower, upper⟩ := withDigits?_bounds positive found
    have positiveDigits : 0 < digits := Nat.lt_of_lt_of_le (Nat.pow_pos (by decide)) lower
    have short : digits ≤ 10 ^ 17 :=
      Nat.le_trans upper (Nat.pow_le_pow_right (by decide) (by omega))
    have fewDigits : (digitChars digits).length ≤ 18 :=
      (Nat.length_toDigits_le_iff (by decide) (by decide)).2 (Nat.lt_of_le_of_lt short (by decide))
    -- Where rounding up added a digit, the point moved by one place with it.
    have place : pointOf rank + ((digitChars digits).length - (more + 1 : Nat)) -
        (digitChars digits).length = pointOf rank - (more + 1 : Nat) := by omega
    have near := pointOf_near positive finite
    rw [same]
    refine ⟨positiveDigits, short, ?_, ?_⟩
    · dsimp only
      omega
    · dsimp only
      rw [place]
      exact roundsTo_bounded inner rounds
  · obtain rfl : rank = magnitudes - 1 := by omega
    rw [shortest_greatest]
    have length : (digitChars 17976931348623157).length = 17 := by decide
    refine ⟨by decide, by decide, by decide, ?_⟩
    have up : ((309 : Int) - (17 : Nat)).toNat = 292 := by decide
    have down : (-((309 : Int) - (17 : Nat))).toNat = 0 := by decide
    rw [length, up, down, greatestWritten, Nat.pow_zero]
    generalize 10 ^ 292 = power
    exact Nat.le_of_eq (Nat.mul_one _).symm

end DocView.Double
