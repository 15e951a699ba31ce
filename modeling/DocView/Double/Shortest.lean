import DocView.Double

/-!
The shortest decimal text that reads back as the same number. Of several digit strings of the least
length the one nearest to the number is chosen, and a tie goes to the even last digit.
-/

namespace DocView.Double

/-- Decimal digits with the place of their point: `0.digits` times ten to the power `point`. -/
structure Decimal where
  /-- The digits as a whole number. -/
  digits : Nat
  /-- How many digits stand before the point, negative for zeros behind it. -/
  point : Int
deriving DecidableEq

/-- The decimal digits of a whole number. -/
def digitChars (value : Nat) : List Char := Nat.toDigits 10 value

/-- The number of digits before the point of a positive magnitude, negative for zeros behind it. -/
def pointOf (rank : Nat) : Int :=
  -- The least magnitude exceeds `10 ^ -324`, so shifting by 324 places leaves a digit.
  ((digitChars (units rank * 10 ^ 324 / 2 ^ unitBits)).length : Int) - 324

/-- Whether a decimal lies among the reals that round to a rank. -/
def roundsTo (rank : Nat) (candidate up down : Nat) : Bool :=
  -- The reals in question reach halfway to either neighbour, and include both ends for an even rank.
  let twice := candidate * down * 2 ^ (unitBits + 1)
  let low := (units (rank - 1) + units rank) * up
  let high := (units rank + units (rank + 1)) * up
  if rank % 2 = 0 then low ≤ twice && twice ≤ high else low < twice && twice < high

/-- The decimal of a given number of digits that rounds to a rank and is nearest to it, if any. -/
def withDigits? (rank : Nat) (point : Int) (count : Nat) : Option Nat :=
  -- One step of the grid is `down / up`, of which one of the two is one.
  let places := point - count
  let up := 10 ^ (-places).toNat
  let down := 10 ^ places.toNat
  let num := units rank * up
  let den := down * 2 ^ unitBits
  let below := num / den
  -- Any decimal of this length in the interval has one of the two neighbours in it as well.
  let nearest := roundDiv num den
  let other := if nearest = below then below + 1 else below
  if roundsTo rank nearest up down then some nearest
  else if roundsTo rank other up down then some other
  else none

/-- The shortest decimal that rounds to a positive rank. -/
def shortest (rank : Nat) : Decimal :=
  let point := pointOf rank
  -- Seventeen digits always suffice, so the search runs from one to seventeen.
  match (List.range 17).findSome? fun shorter =>
    (withDigits? rank point (shorter + 1)).map (·, shorter + 1) with
  | some (digits, count) =>
    -- Rounding up to the next power of ten takes one digit more.
    ⟨digits, point + ((digitChars digits).length - count)⟩
  | none => ⟨0, 0⟩

/-- The text of digits around their point, or with an exponent when the point lies far off. -/
def layout (decimal : Decimal) : List Char :=
  let all := digitChars decimal.digits
  -- Zeros at the end say nothing that the point does not say.
  let digits := (all.reverse.dropWhile (· == '0')).reverse
  let point := decimal.point
  if 0 < point ∧ point ≤ 16 then
    -- Whole numbers still show one decimal.
    let whole := point.toNat
    let behind := digits.drop whole
    (digits ++ List.replicate (whole - digits.length) '0').take whole
      ++ '.' :: (if behind.isEmpty then ['0'] else behind)
  else if -5 < point ∧ point ≤ 0 then
    '0' :: '.' :: List.replicate (-point).toNat '0' ++ digits
  else
    let exponent := point - 1
    let sign := if exponent < 0 then '-' else '+'
    let mantissa := match digits with
      | [single] => [single]
      | first :: others => first :: '.' :: others
      | [] => ['0']
    mantissa ++ 'e' :: sign :: digitChars exponent.natAbs

/-- The text of a number. -/
def render (number : Double) : List Char :=
  let magnitude := if number.rank = 0 then ['0', '.', '0'] else layout (shortest number.rank)
  if number.negative then '-' :: magnitude else magnitude

end DocView.Double
