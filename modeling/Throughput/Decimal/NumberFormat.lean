import Throughput.Decimal.Shortest

/-!
Contract: how the shortest decimal of a double is written down.

Owns:
- `NumberFormat`, the decisions of one output format: where positional notation
  ends, whether a whole number keeps a point, how an exponent is signed, what
  is written for the values that are no numbers;
- `NumberFormat.write`, the text of a double in a format;
- the three formats of this library: `plain` for report lines and messages,
  `diagnostic` for optional values in messages, `json` for JSON lines.

The digits themselves come from `shortest` and are the same in every format,
up to the rule for ties.
-/

namespace Throughput.Decimal

/-- The decisions of one format for doubles. -/
structure NumberFormat where
  /-- The least exponent of a first digit that is written positionally; none
  if every small number is. -/
  leastPositional : Option Int
  /-- The greatest exponent of a first digit that is written positionally;
  none if every large number is. -/
  greatestPositional : Option Int
  /-- Whether a whole number in positional notation ends in `.0`. -/
  keepsPoint : Bool
  /-- What stands before an exponent that is not negative. -/
  plusSign : String
  /-- Which of two equally near shortest decimals is written. -/
  tie : Tie
  notANumber : String
  infinity : String
  negativeInfinity : String

namespace NumberFormat

/-- Report lines and messages: always positional, no point after a whole
number. -/
def plain : NumberFormat where
  leastPositional := none
  greatestPositional := none
  keepsPoint := false
  plusSign := ""
  tie := .away
  notANumber := "NaN"
  infinity := "inf"
  negativeInfinity := "-inf"

/-- Values that a message shows for inspection: positional from `1e-4` below
`1e16`, with a point. -/
def diagnostic : NumberFormat where
  leastPositional := some (-4)
  greatestPositional := some 15
  keepsPoint := true
  plusSign := ""
  tie := .away
  notANumber := "NaN"
  infinity := "inf"
  negativeInfinity := "-inf"

/-- JSON numbers: positional from `1e-5` below `1e16`, with a point, the sign
of an exponent always written. JSON has no number for the values that are no
numbers; they are `null`. -/
def json : NumberFormat where
  leastPositional := some (-5)
  greatestPositional := some 15
  keepsPoint := true
  plusSign := "+"
  tie := .toEven
  notANumber := "null"
  infinity := "null"
  negativeInfinity := "null"

/-- Whether a number whose first digit has this exponent is written
positionally. -/
def isPositional (format : NumberFormat) (exponent : Int) : Bool :=
  format.leastPositional.all (· ≤ exponent) &&
    format.greatestPositional.all (exponent ≤ ·)

/-- Digits with a point before the last `places` of them, zeros in front
where there are too few. There is no point before no places. -/
def pointed (digits : List Char) (places : Nat) : List Char :=
  let padded := List.replicate (places + 1 - digits.length) '0' ++ digits
  let whole := padded.length - places
  if places = 0 then padded else padded.take whole ++ '.' :: padded.drop whole

def positional (format : NumberFormat) (numeral : Numeral) : List Char :=
  let written := digits numeral.coefficient
  if numeral.exponent < 0 then
    pointed written (-numeral.exponent).toNat
  else
    written ++ List.replicate numeral.exponent.toNat '0' ++
      (if format.keepsPoint then ['.', '0'] else [])

/-- The text of a decimal with an exponent: one digit before the point, and
no point after a single digit. -/
def scientific (format : NumberFormat) (numeral : Numeral) : List Char :=
  let written := digits numeral.coefficient
  let mantissa :=
    if written.length ≤ 1 then written else pointed written (written.length - 1)
  let exponent := numeral.leadingExponent
  mantissa ++ 'e' ::
    (if exponent < 0 then ['-'] else format.plusSign.toList) ++
    digits exponent.natAbs

def layout (format : NumberFormat) (numeral : Numeral) : List Char :=
  if numeral.coefficient = 0 ∨ format.isPositional numeral.leadingExponent then
    format.positional numeral
  else
    format.scientific numeral

/-- The text of what a bit pattern stands for. A negative zero keeps its
sign. -/
def writeBinary (format : NumberFormat) : Binary → String
  | .notANumber => format.notANumber
  | .infinite negative =>
    if negative then format.negativeInfinity else format.infinity
  | .finite negative magnitude =>
    let text := format.layout (shortest format.tie magnitude)
    String.ofList (if negative then '-' :: text else text)

def write (format : NumberFormat) (value : Float) : String :=
  format.writeBinary (reading value)

/-- The text of a double that may be absent, as messages show it. -/
def writeOption (format : NumberFormat) : Option Float → String
  | none => "None"
  | some value => "Some(" ++ format.write value ++ ")"

end NumberFormat

end Throughput.Decimal
