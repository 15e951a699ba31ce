import DocView.Double

/-!
Numbers read from decimal digits. A significand that fits 64 bits is rounded first and then scaled
by the number nearest to a power of ten, so a long significand may be rounded twice.
-/

namespace DocView.Double

/-- The greatest power of ten that is a finite number. -/
def greatestPower : Nat := 308

/-- The magnitude of the number nearest to a power of ten, in units. -/
def powerUnits (exponent : Nat) : Nat := units (nearestRank (10 ^ exponent) 1)

/-- The rank of the product of a magnitude and a power of ten. -/
def timesPower (rank exponent : Nat) : Nat :=
  -- A product of two counts of units is a count of squared units.
  nearestRank (units rank * powerUnits exponent) (1 <<< (2 * unitBits))

/-- The rank of the quotient of a magnitude by a power of ten. -/
def overPower (rank exponent : Nat) : Nat :=
  -- In a quotient of two counts the units cancel.
  nearestRank (units rank) (powerUnits exponent)

/-- The rank of a significand scaled by a power of ten, which may lie beyond the finite ones. -/
def decimalRank (significand : Nat) (exponent : Int) : Nat :=
  let rank := nearestRank significand 1
  match exponent with
  | .ofNat up =>
    if up ≤ greatestPower then timesPower rank up
    -- No number but zero stays finite under a greater power.
    else if rank = 0 then 0 else magnitudes
  | .negSucc below =>
    let down := below + 1
    if down ≤ greatestPower then overPower rank down
    else if down ≤ 2 * greatestPower then
      overPower (overPower rank greatestPower) (down - greatestPower)
    -- A significand of 64 bits vanishes when it is divided twice by the greatest power.
    else 0

/-- The number of a decimal significand and exponent, unless its magnitude is beyond the finite ones. -/
def ofDecimal? (negative : Bool) (significand : Nat) (exponent : Int) : Option Double :=
  ofRank? negative (decimalRank significand exponent)

end DocView.Double
