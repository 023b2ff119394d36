import Mathlib.Algebra.Order.Field.Power
import Mathlib.Tactic.FieldSimp
import Mathlib.Tactic.Linarith
import Mathlib.Tactic.NormNum
import Mathlib.Tactic.Positivity
import Mathlib.Tactic.Ring
import Throughput.Decimal.Shortest

/-!
Contract: magnitudes and decimals as rational numbers.

Owns:
- `Dyadic.value` and `Numeral.value`, the numbers that are written;
- `Dyadic.lowEnd` and `Dyadic.highEnd`, the ends of the interval of reals that
  round to a magnitude;
- the meaning of `Dyadic.quotient` and of `Dyadic.roundsBack` in these terms.

So what a decimal rounds to depends on its value alone.
-/

namespace Throughput.Decimal

def Dyadic.value (magnitude : Dyadic) : ℚ :=
  magnitude.significand * 2 ^ magnitude.exponent

def Numeral.value (numeral : Numeral) : ℚ :=
  numeral.coefficient * 10 ^ numeral.exponent

/-- A power with an integer exponent as a quotient of natural powers. -/
theorem zpow_eq_div (base : ℚ) (exponent : ℤ) :
    base ^ exponent = base ^ exponent.toNat / base ^ (-exponent).toNat := by
  rcases le_total 0 exponent with up | down
  · have noDenominator : (-exponent).toNat = 0 := by omega
    rw [noDenominator, pow_zero, div_one, ← zpow_natCast, Int.toNat_of_nonneg up]
  · have noNumerator : exponent.toNat = 0 := by omega
    have isNegative : -((-exponent).toNat : ℤ) = exponent := by omega
    rw [noNumerator, pow_zero, one_div, ← zpow_natCast, ← zpow_neg, isNegative]

namespace Dyadic

variable (magnitude : Dyadic)

theorem quotient_snd_pos (shift : ℤ) : 0 < (magnitude.quotient shift).2 := by
  unfold quotient
  simp only [Nat.pow_eq]
  positivity

theorem quotient_value (shift : ℤ) :
    ((magnitude.quotient shift).1 : ℚ) / (magnitude.quotient shift).2 =
      magnitude.value * 10 ^ shift := by
  unfold quotient value
  rw [zpow_eq_div 2, zpow_eq_div 10 shift]
  simp only [Nat.pow_eq]
  push_cast
  field_simp

/-! ### The interval of a magnitude -/

/-- The lower end of the interval of reals that round to the magnitude. -/
def lowEnd : ℚ :=
  magnitude.interval.1 * 2 ^ magnitude.exponent / 4

/-- The upper end of that interval. -/
def highEnd : ℚ :=
  magnitude.interval.2 * 2 ^ magnitude.exponent / 4

theorem highEnd_eq : magnitude.highEnd = magnitude.value + 2 ^ magnitude.exponent / 2 := by
  unfold highEnd interval value
  push_cast
  ring

/-- The test of `roundsBack` compares naturals; they are an end of the interval
and the value of the decimal, both times one positive factor. -/
theorem exists_scale (numeral : Numeral) :
    let scaled := (Dyadic.mk 1 magnitude.exponent).quotient (-numeral.exponent)
    ∃ factor : ℚ, 0 < factor ∧
      ((4 * numeral.coefficient * scaled.2 : ℕ) : ℚ) = numeral.value * factor ∧
      ∀ edge : ℕ, ((edge * scaled.1 : ℕ) : ℚ) = edge * 2 ^ magnitude.exponent / 4 * factor := by
  intro scaled
  have unitPositive : (0 : ℚ) < scaled.2 := by exact_mod_cast quotient_snd_pos _ _
  have quotient : (scaled.1 : ℚ) / scaled.2 = 2 ^ magnitude.exponent * 10 ^ (-numeral.exponent) := by
    rw [quotient_value, value, Nat.cast_one, one_mul]
  have power : (10 : ℚ) ^ numeral.exponent * 10 ^ (-numeral.exponent) = 1 := by
    rw [← zpow_add₀ (by norm_num), add_neg_cancel, zpow_zero]
  refine ⟨4 * scaled.2 * 10 ^ (-numeral.exponent), by positivity, ?_, fun edge => ?_⟩
  · push_cast
    calc
      (4 * numeral.coefficient * scaled.2 : ℚ) =
          4 * numeral.coefficient * scaled.2 *
            (10 ^ numeral.exponent * 10 ^ (-numeral.exponent)) := by rw [power, mul_one]
      _ = numeral.value * (4 * scaled.2 * 10 ^ (-numeral.exponent)) := by
          unfold Numeral.value
          ring
  · have scale : (scaled.1 : ℚ) = 2 ^ magnitude.exponent * 10 ^ (-numeral.exponent) * scaled.2 := by
      rw [← quotient, div_mul_cancel₀ _ unitPositive.ne']
    push_cast
    rw [scale]
    ring

theorem roundsBack_iff (numeral : Numeral) :
    magnitude.roundsBack numeral = true ↔
      if magnitude.significand % 2 = 0 then
        magnitude.lowEnd ≤ numeral.value ∧ numeral.value ≤ magnitude.highEnd
      else
        magnitude.lowEnd < numeral.value ∧ numeral.value < magnitude.highEnd := by
  obtain ⟨factor, positive, point, edges⟩ := magnitude.exists_scale numeral
  have low := edges magnitude.interval.1
  have high := edges magnitude.interval.2
  unfold roundsBack
  by_cases even : magnitude.significand % 2 = 0
  · simp only [if_pos even, Bool.and_eq_true, decide_eq_true_eq]
    rw [← Nat.cast_le (α := ℚ), ← Nat.cast_le (α := ℚ), low, high, point,
      mul_le_mul_iff_left₀ positive, mul_le_mul_iff_left₀ positive]
    rfl
  · simp only [if_neg even, Bool.and_eq_true, decide_eq_true_eq]
    rw [← Nat.cast_lt (α := ℚ), ← Nat.cast_lt (α := ℚ), low, high, point,
      mul_lt_mul_iff_left₀ positive, mul_lt_mul_iff_left₀ positive]
    rfl

/-- Decimals of one value round back alike. -/
theorem roundsBack_congr {numeral numeral' : Numeral} (same : numeral.value = numeral'.value) :
    magnitude.roundsBack numeral = magnitude.roundsBack numeral' := by
  rw [Bool.eq_iff_iff, roundsBack_iff, roundsBack_iff, same]

end Dyadic

end Throughput.Decimal
