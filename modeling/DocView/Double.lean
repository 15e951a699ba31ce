/-!
Finite binary64 numbers in exact arithmetic. The magnitudes are numbered from zero upward, so the
order of numbers is the order of their ranks, and every magnitude is a whole multiple of the least
positive one.
-/

namespace DocView

-- A power of numbers is the same term in every module, whatever other powers a module imports.
attribute [instance (2000)] instPowNat
attribute [default_instance 20000] instPowNat

/-- The quotient rounded to the nearest whole number, a tie going to the even neighbour. -/
def roundDiv (num den : Nat) : Nat :=
  -- Twice the remainder tells on which side of the middle the quotient lies.
  let floor := num / den
  let twice := 2 * (num % den)
  if twice < den then floor
  else if den < twice then floor + 1
  -- In the middle, an odd floor moves up to the even number above it.
  else floor + floor % 2

namespace Double

/-- The least positive magnitude is one part in `2 ^ unitBits`. -/
def unitBits : Nat := 1074

/-- The number of finite magnitudes. -/
def magnitudes : Nat :=
  -- Each of the finite exponents has as many magnitudes as there are settings of 52 bits.
  2047 * 2 ^ 52

/-- The bits of a magnitude that lie above its last place. -/
def significand (rank : Nat) : Nat :=
  -- The first two blocks of ranks count single units, and each later block repeats the upper one.
  if rank < 2 ^ 53 then rank else 2 ^ 52 + rank % 2 ^ 52

/-- The last place of a magnitude, as a power of two of units. -/
def shift (rank : Nat) : Nat :=
  -- Subtraction stops at zero, which gives the first block the last place of the second.
  rank / 2 ^ 52 - 1

/-- The magnitude of a rank, counted in units of the least positive one. -/
def units (rank : Nat) : Nat := significand rank <<< shift rank

/-- The rank of the magnitude nearest to a quotient, a tie going to the even significand. -/
def nearestRank (num den : Nat) : Nat :=
  let scaled := num <<< unitBits
  -- A magnitude keeps 53 bits, so whatever lies below them is rounded away.
  let dropped := Nat.log2 (scaled / den) - 52
  -- Rounding up to the next power of two runs over into the next block, as it should.
  dropped * 2 ^ 52 + roundDiv scaled (den <<< dropped)

end Double

/-- A finite binary64 number: a sign and the rank of its magnitude among all finite ones. -/
structure Double where
  /-- Whether the number carries a minus sign, which zero may do as well. -/
  negative : Bool
  /-- How many magnitudes lie below. -/
  rank : Nat
  /-- Beyond the last rank lie only infinity and what is no number. -/
  finite : rank < Double.magnitudes
deriving DecidableEq

namespace Double

/-- The number of a sign and a rank, unless the rank lies beyond the finite magnitudes. -/
def ofRank? (negative : Bool) (rank : Nat) : Option Double :=
  if finite : rank < magnitudes then some ⟨negative, rank, finite⟩ else none

/-- Zero with a sign. -/
def zero (negative : Bool) : Double := ⟨negative, 0, by decide⟩

/-- The place of a number in ascending order, which both zeros share. -/
def ordinal (number : Double) : Int :=
  -- Ranks ascend with the magnitude, so a minus sign turns them round.
  if number.negative then -(number.rank : Int) else number.rank

/-- The place in ascending order of the number nearest to an integer. -/
def ordinalOfInt (value : Int) : Int :=
  match value with
  | .ofNat magnitude => nearestRank magnitude 1
  | .negSucc below => -(nearestRank (below + 1) 1 : Int)

end Double

end DocView
