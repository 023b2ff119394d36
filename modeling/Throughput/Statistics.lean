import Throughput.Failure
import Throughput.Scalar

/-!
Contract: sample statistics with a 95% confidence interval.

Owns:
- `studentCritical`, the two-tailed 95% critical value of Student's
  distribution for a number of samples;
- `mean`, `best` and `deviation` of a list of scores;
- `Summary` and `Summary.ofScores`, the figures of one report.

Everything here is written over `Scalar`; sums run from left to right.
-/

namespace Throughput

variable {α : Type} [Scalar α]

/-- Critical values in hundredths for 2 samples, 3 samples and so on. -/
def criticalHundredths : List Nat :=
  [1271,
    430, 318, 278, 257, 245, 236, 231, 226, 223, 220, 218, 216,
    214, 213, 212, 211, 210, 209, 209, 208, 207, 207, 206, 206,
    206, 205, 205, 205, 204, 204, 204, 203, 203, 203, 203, 203,
    202, 202, 202, 202, 202, 202, 202, 201, 201, 201, 201, 201,
    201, 201, 201, 201, 200, 200, 200, 200, 200, 200, 200, 200,
    200, 200, 200, 200, 200, 200, 200, 199, 199, 199, 199, 199,
    199, 199, 199, 199, 199, 199, 199, 199, 199, 199, 199, 199,
    199, 199, 199, 199, 199, 199, 199, 199, 199, 199]

/-- The critical value for `count` samples in hundredths. Past the end of the
table three values serve for all larger counts; below two samples there is
none. -/
def criticalHundredth (count : Nat) : Option Nat :=
  if 474 ≤ count then some 196
  else if 160 ≤ count then some 197
  else if 97 ≤ count then some 198
  else if count < 2 then none
  else criticalHundredths[count - 2]?

/-- The critical value for `count` samples; the quotient of zero by zero where
there is none. -/
def studentCritical (count : Nat) : α :=
  match criticalHundredth count with
  | some hundredths => OfScientific.ofScientific hundredths true 2
  | none => 0.0 / 0.0

/-- Calls per second, from the microseconds that one call takes. -/
def score (micros : α) : α :=
  1000000.0 / micros

def mean (values : List α) : α :=
  Scalar.sum values / Scalar.ofNat values.length

/-- The highest value; of equal ones, such as the two zeros, the last. Values
that are no numbers do not count, and no values at all have the lowest one. -/
def best (values : List α) : α :=
  match values.filter (fun value => !Scalar.isNaN value) with
  | [] => Scalar.lowest
  | first :: rest => rest.foldl Scalar.larger first

def squaredDistance (center value : α) : α :=
  let distance := value - center
  distance * distance

/-- The sample standard deviation around a center, with one degree of freedom
taken away. -/
def deviation (values : List α) (center : α) : α :=
  Scalar.sqrt
    (Scalar.sum (values.map (squaredDistance center)) /
      Scalar.ofNat (values.length - 1))

/-- The figures of a list of scores. A single score has no spread, and so
none of the last four. -/
structure Summary (α : Type) where
  count : Nat
  best : α
  mean : α
  standardDeviation : Option α
  standardError : Option α
  critical : Option α
  /-- Half the width of the confidence interval, in percent of the mean. -/
  confidencePercent : Option α

/-- The summary of scores, of which there must be one at least. -/
def Summary.ofScores (scores : List α) : Except Failure (Summary α) :=
  let count := scores.length
  let center := Throughput.mean scores
  let highest := Throughput.best scores
  match scores with
  | [] => .error .emptySampleSet
  | [_] =>
    .ok {
      count, best := highest, mean := center
      standardDeviation := none, standardError := none
      critical := none, confidencePercent := none }
  | _ :: _ :: _ =>
    let spread := deviation scores center
    let standardError := spread / Scalar.sqrt (Scalar.ofNat count)
    let critical := studentCritical count
    .ok {
      count, best := highest, mean := center
      standardDeviation := some spread
      standardError := some standardError
      critical := some critical
      confidencePercent := some (critical * standardError / center * 100.0) }

end Throughput
