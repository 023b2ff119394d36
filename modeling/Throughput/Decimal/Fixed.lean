import Throughput.Decimal.Shortest
import Throughput.Decimal.NumberFormat

/-!
Contract: the text of a double with a fixed number of decimal places.

Owns:
- `roundedQuotient`, a quotient of naturals rounded to the nearest natural;
- `fixed`, the text with so many places: the exact value of the double,
  rounded once, a half going to the even neighbour.

At least one digit stands before the point, and the sign of a negative zero,
or of a negative value that rounds to zero, is kept.
-/

namespace Throughput.Decimal

/-- The natural nearest to a quotient; a half goes as `tie` says. -/
def roundedQuotient (tie : Tie) (numerator denominator : Nat) : Nat :=
  let quotient := numerator / denominator
  let twiceRest := 2 * (numerator % denominator)
  if twiceRest < denominator then quotient
  else if denominator < twiceRest then quotient + 1
  else if tie.goesUp quotient then quotient + 1
  else quotient

/-- The digits of a magnitude with so many places. -/
def Dyadic.fixedDigits (places : Nat) (magnitude : Dyadic) : List Char :=
  let (numerator, denominator) := magnitude.quotient places
  NumberFormat.pointed (digits (roundedQuotient .toEven numerator denominator)) places

/-- The text of what a bit pattern stands for, with so many places. -/
def fixedBinary (places : Nat) : Binary → String
  | .notANumber => "NaN"
  | .infinite negative => if negative then "-inf" else "inf"
  | .finite negative magnitude =>
    let text := magnitude.fixedDigits places
    String.ofList (if negative then '-' :: text else text)

def fixed (places : Nat) (value : Float) : String :=
  fixedBinary places (reading value)

end Throughput.Decimal
