import Mathlib.Analysis.Complex.Trigonometric
import Mathlib.Analysis.Real.Sqrt
import Throughput.Scalar

/-!
Contract: the reading of numeric definitions in exact arithmetic.

Owns:
- `Elementary`, the functions beyond the field of real numbers, by what is
  relied on of them;
- the instance of `Scalar` for the real numbers;
- the functions of analysis as a case of `Elementary`;
- what the sum of a list, the larger of two values and a number of hundredths
  are in exact arithmetic.

Does not own: how far a rounded computation is from its exact reading.
-/

namespace Throughput

/-- Functions that may stand for those of a numeric definition, known by their
bounds alone. There is no least real number: any negative one does for
`lowest` where the values that are compared are positive. -/
class Elementary where
  sin : ℝ → ℝ
  cos : ℝ → ℝ
  fract : ℝ → ℝ
  lowest : ℝ
  abs_sin_le : ∀ value, |sin value| ≤ 1
  abs_cos_le : ∀ value, |cos value| ≤ 1
  fract_nonneg : ∀ value, 0 ≤ value → 0 ≤ fract value
  fract_lt : ∀ value, fract value < 1
  lowest_neg : lowest < 0

-- The reals have these from general classes, and so does `Scalar`. Instances
-- of their own keep the notation of statements to one reading.
noncomputable instance realDiv : Div ℝ :=
  DivInvMonoid.toDiv

noncomputable instance realOfScientific : OfScientific ℝ :=
  NNRatCast.toOfScientific

/-- Exact arithmetic: no operation rounds, and every outcome is a number. -/
noncomputable instance [Elementary] : Scalar ℝ where
  ofNat := Nat.cast
  sqrt := Real.sqrt
  sin := Elementary.sin
  cos := Elementary.cos
  fract := Elementary.fract
  isNaN := fun _ => false
  isFinite := fun _ => true
  lowest := Elementary.lowest
  decidableLT := fun left right => Classical.propDecidable (left < right)
  decidableLE := fun left right => Classical.propDecidable (left ≤ right)

namespace Elementary

/-- The functions of analysis. The part after the point is cut off toward
zero. -/
@[reducible]
noncomputable def analysis : Elementary where
  sin := Real.sin
  cos := Real.cos
  fract := fun value => if value < 0 then value - ⌈value⌉ else Int.fract value
  lowest := -1
  abs_sin_le := Real.abs_sin_le_one
  abs_cos_le := Real.abs_cos_le_one
  fract_nonneg := by
    intro value nonneg
    rw [if_neg (not_lt.mpr nonneg)]
    exact Int.fract_nonneg value
  fract_lt := by
    intro value
    split
    · have := Int.le_ceil value
      linarith
    · exact Int.fract_lt_one value
  lowest_neg := by norm_num

end Elementary

namespace Scalar

variable [Elementary]

theorem sum_eq_sum (values : List ℝ) : sum values = values.sum := by
  change values.foldl (· + ·) (-(0.0 : ℝ)) = _
  have zero : (-(0.0 : ℝ)) = 0 := by norm_num
  rw [zero, List.sum_eq_foldl]

theorem larger_eq_max (left right : ℝ) : larger left right = max left right := by
  change (if right < left then left else right) = _
  split
  · next less => exact (max_eq_left less.le).symm
  · next notLess => exact (max_eq_right (not_lt.mp notLess)).symm

omit [Elementary] in
theorem ofScientific_hundredths (hundredths : Nat) :
    (OfScientific.ofScientific hundredths true 2 : ℝ) = hundredths / 100 := by
  rw [← Rat.cast_ofScientific]
  change ((Rat.ofScientific hundredths true 2 : ℚ) : ℝ) = _
  rw [Rat.ofScientific_true_def, Rat.mkRat_eq_div]
  norm_num

end Scalar

end Throughput
