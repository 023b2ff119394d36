import Throughput.Decimal.Binary

/-!
Contract: the fewest decimal digits that still name a double.

Owns:
- `Numeral`, a number `coefficient * 10 ^ exponent`;
- `Dyadic.roundsBack`, the test that a decimal lies in the interval of reals
  that round to a double;
- `shortest`, the decimal with the fewest digits in that interval, of those
  the one nearest to the double, and of two equally near the one that the
  caller's `Tie` asks for.

For one digit, two digits and so on, the two neighbours of the double on the
grid of that many digits are tested; the first grid with a hit wins. If any
point of a grid lies in the interval, one of those two neighbours does. With
seventeen digits the grid is finer than the interval, so there is a hit.
-/

namespace Throughput.Decimal

/-- A number `coefficient * 10 ^ exponent`. -/
structure Numeral where
  coefficient : Nat
  exponent : Int
deriving DecidableEq, Repr

/-- Which of two equally near neighbours is taken. -/
inductive Tie where
  | toEven
  | away
deriving DecidableEq, Repr

namespace Tie

/-- Whether a value half way between `quotient` and `quotient + 1` goes up. -/
def goesUp : Tie → Nat → Bool
  | .toEven, quotient => quotient % 2 = 1
  | .away, _ => true

end Tie

/-- The decimal digits of a natural, most significant first. -/
def digits (value : Nat) : List Char :=
  Nat.toDigits 10 value

namespace Dyadic

/-- The exponent of the first digit: the largest `k` with
`10 ^ k ≤ magnitude`, for a magnitude that is not zero. -/
def leadingExponent (magnitude : Dyadic) : Int :=
  let (numerator, denominator) := magnitude.quotient 0
  if denominator ≤ numerator then
    ((digits (numerator / denominator)).length : Int) - 1
  else
    let length := (digits (denominator / numerator)).length
    if denominator = numerator * Nat.pow 10 (length - 1) then
      1 - (length : Int)
    else
      -(length : Int)

/-- The ends of the interval of reals that round to the magnitude, in quarters
of its unit: half a unit above, and half a unit below unless the binade starts
here, where the doubles below lie twice as close. -/
def interval (magnitude : Dyadic) : Nat × Nat :=
  let quarters := 4 * magnitude.significand
  let below :=
    if magnitude.significand = Binary.hiddenBit ∧
        Binary.leastExponent < magnitude.exponent then 1 else 2
  (quarters - below, quarters + 2)

/-- Whether a decimal lies in the interval of a magnitude. The ends round to
the double with the even significand. -/
def roundsBack (magnitude : Dyadic) (numeral : Numeral) : Bool :=
  let (low, high) := magnitude.interval
  let (scale, unit) := (Dyadic.mk 1 magnitude.exponent).quotient (-numeral.exponent)
  let point := 4 * numeral.coefficient * unit
  if magnitude.significand % 2 = 0 then
    low * scale ≤ point && point ≤ high * scale
  else
    low * scale < point && point < high * scale

/-- The decimal of the grid `10 ^ exponent` that is nearest to the magnitude
among its neighbours that round back to it. -/
def nearestOnGrid
    (tie : Tie)
    (magnitude : Dyadic)
    (exponent : Int) :
    Option Numeral :=
  let (numerator, denominator) := magnitude.quotient (-exponent)
  let quotient := numerator / denominator
  let twiceRest := 2 * (numerator % denominator)
  let below : Numeral := ⟨quotient, exponent⟩
  let above : Numeral := ⟨quotient + 1, exponent⟩
  let upFirst :=
    if twiceRest = denominator then tie.goesUp quotient
    else denominator < twiceRest
  let (first, second) := if upFirst then (above, below) else (below, above)
  if magnitude.roundsBack first then some first
  else if magnitude.roundsBack second then some second
  else none

end Dyadic

namespace Numeral

/-- The same number without zeros at the end of its coefficient. -/
def trim : Nat → Numeral → Numeral
  | 0, numeral => numeral
  | steps + 1, numeral =>
    if numeral.coefficient ≠ 0 ∧ numeral.coefficient % 10 = 0 then
      trim steps ⟨numeral.coefficient / 10, numeral.exponent + 1⟩
    else
      numeral

def digitCount (numeral : Numeral) : Nat :=
  (digits numeral.coefficient).length

/-- The exponent of the first digit. -/
def leadingExponent (numeral : Numeral) : Int :=
  numeral.exponent + numeral.digitCount - 1

end Numeral

/-- The most digits that the shortest decimal of a double ever has. -/
def maximalDigits : Nat := 17

/-- Tries grids of ever more digits, `count` of them, the first of which has
the step `10 ^ exponent`. -/
def searchGrids
    (tie : Tie)
    (magnitude : Dyadic) :
    Nat → Int → Option Numeral
  | 0, _ => none
  | count + 1, exponent =>
    match magnitude.nearestOnGrid tie exponent with
    | some numeral => some numeral
    | none => searchGrids tie magnitude count (exponent - 1)

/-- The shortest decimal that rounds back to a magnitude. -/
def shortest (tie : Tie) (magnitude : Dyadic) : Numeral :=
  if magnitude.significand = 0 then ⟨0, 0⟩
  else
    let found :=
      searchGrids tie magnitude maximalDigits magnitude.leadingExponent
    (found.getD ⟨0, 0⟩).trim maximalDigits

end Throughput.Decimal
