import Mathlib.Data.Nat.Cast.Order.Field
import Throughput.Proofs.Decimal.Digits
import Throughput.Proofs.Decimal.Interval

/-!
Contract: the shortest decimal of a magnitude rounds back to it.

Owns:
- the size of the interval of a magnitude, beside that of its last grid;
- the statement that the search among the grids finds a decimal, and that it
  lies in the interval;
- the same for `shortest`, whatever the rule for ties.

Half a step of the grid with seventeen digits is less than the distance from a
magnitude to either end of its interval, so the nearer of its two neighbours on
that grid lies inside.
-/

namespace Throughput.Decimal

namespace Dyadic

variable {magnitude : Dyadic}

/-! ### The interval of a magnitude -/

theorem value_pos (positive : 0 < magnitude.significand) : 0 < magnitude.value := by
  unfold value
  positivity

/-- The distance to the upper end of the interval, beside the magnitude. -/
theorem distance_highEnd (bounded : magnitude.significand < 2 ^ 53) :
    magnitude.value / 2 ^ 54 ≤ magnitude.highEnd - magnitude.value := by
  have unit : (0 : ℚ) < 2 ^ magnitude.exponent := by positivity
  have atMost : (magnitude.significand : ℚ) ≤ 2 ^ 53 := by exact_mod_cast bounded.le
  rw [highEnd_eq]
  unfold value
  nlinarith

/-- The distance to the lower end of the interval, beside the magnitude. -/
theorem distance_lowEnd (positive : 0 < magnitude.significand)
    (bounded : magnitude.significand < 2 ^ 53) :
    magnitude.value / 2 ^ 54 ≤ magnitude.value - magnitude.lowEnd := by
  have unit : (0 : ℚ) < 2 ^ magnitude.exponent := by positivity
  unfold lowEnd interval value
  by_cases binade : magnitude.significand = Binary.hiddenBit ∧
      Binary.leastExponent < magnitude.exponent
  · have quarters : ((4 * magnitude.significand - 1 : ℕ) : ℚ) = 4 * magnitude.significand - 1 := by
      push_cast [show 1 ≤ 4 * magnitude.significand by omega]
      rfl
    have isHidden : (magnitude.significand : ℚ) = 2 ^ 52 := by
      rw [binade.1]
      norm_num [Binary.hiddenBit, Binary.fractionBits]
    simp only [if_pos binade]
    rw [quarters, isHidden]
    linarith
  · have quarters : ((4 * magnitude.significand - 2 : ℕ) : ℚ) = 4 * magnitude.significand - 2 := by
      push_cast [show 2 ≤ 4 * magnitude.significand by omega]
      rfl
    have atMost : (magnitude.significand : ℚ) ≤ 2 ^ 53 := by exact_mod_cast bounded.le
    simp only [if_neg binade]
    rw [quarters]
    nlinarith

theorem lowEnd_pos (positive : 0 < magnitude.significand) : 0 < magnitude.lowEnd := by
  have quarters : 0 < magnitude.interval.1 := by
    unfold interval
    dsimp only
    split <;> omega
  unfold lowEnd
  positivity

theorem roundsBack_of_between {numeral : Numeral} (low : magnitude.lowEnd < numeral.value)
    (high : numeral.value < magnitude.highEnd) : magnitude.roundsBack numeral = true := by
  rw [roundsBack_iff]
  split
  · exact ⟨low.le, high.le⟩
  · exact ⟨low, high⟩

/-! ### The exponent of the first digit -/

/-- The power of ten of the first digit before the point. -/
theorem pow_digits_le_div {numerator denominator : ℕ} (positive : 0 < denominator)
    (atLeastOne : denominator ≤ numerator) :
    (10 : ℚ) ^ (((digits (numerator / denominator)).length : ℤ) - 1) ≤
      (numerator : ℚ) / denominator := by
  have isNatural : ((digits (numerator / denominator)).length : ℤ) - 1 =
      ((digits (numerator / denominator)).length - 1 : ℕ) := by
    have := length_digits_pos (numerator / denominator)
    omega
  rw [isNatural, zpow_natCast]
  calc
    (10 : ℚ) ^ ((digits (numerator / denominator)).length - 1) ≤
        (numerator / denominator : ℕ) := by
      exact_mod_cast pow_le_of_digits (Nat.div_pos atLeastOne positive)
    _ ≤ numerator / denominator := Nat.cast_div_le

/-- A power of ten below a quotient, from the digits of its inverse. -/
theorem pow_neg_digits_le_div {numerator denominator : ℕ} (positive : 0 < numerator)
    (positive' : 0 < denominator) :
    (10 : ℚ) ^ (-((digits (denominator / numerator)).length : ℤ)) ≤
      (numerator : ℚ) / denominator := by
  have fewer := lt_pow_of_digits (denominator / numerator)
  rw [Nat.div_lt_iff_lt_mul positive, Nat.mul_comm] at fewer
  have denominatorPositive : (0 : ℚ) < denominator := by exact_mod_cast positive'
  rw [zpow_neg, zpow_natCast, ← one_div, div_le_div_iff₀ (by positivity) denominatorPositive,
    one_mul]
  exact_mod_cast fewer.le

/-- The quotient itself where its inverse is a power of ten. -/
theorem pow_eq_div_of_eq_mul_pow {numerator denominator length : ℕ} (positive : 0 < numerator)
    (nonempty : 0 < length) (isPower : denominator = numerator * 10 ^ (length - 1)) :
    (10 : ℚ) ^ (1 - (length : ℤ)) = (numerator : ℚ) / denominator := by
  have exponent : 1 - (length : ℤ) = -((length - 1 : ℕ) : ℤ) := by omega
  have numeratorPositive : (0 : ℚ) < numerator := by exact_mod_cast positive
  rw [exponent, zpow_neg, zpow_natCast, isPower]
  push_cast
  rw [div_mul_cancel_left₀ numeratorPositive.ne']

theorem quotient_fst_pos (positive : 0 < magnitude.significand) (shift : ℤ) :
    0 < (magnitude.quotient shift).1 := by
  have value : (0 : ℚ) < (magnitude.quotient shift).1 / (magnitude.quotient shift).2 := by
    rw [magnitude.quotient_value shift]
    have := value_pos positive
    positivity
  have denominatorPositive := magnitude.quotient_snd_pos shift
  have numerator := (div_pos_iff_of_pos_right (by exact_mod_cast denominatorPositive)).mp value
  exact_mod_cast numerator

/-- The exponent of the first digit is not too large. -/
theorem pow_leadingExponent_le (positive : 0 < magnitude.significand) :
    (10 : ℚ) ^ magnitude.leadingExponent ≤ magnitude.value := by
  have quotient := magnitude.quotient_value 0
  rw [zpow_zero, mul_one] at quotient
  have numeratorPositive := quotient_fst_pos positive 0
  have denominatorPositive := magnitude.quotient_snd_pos 0
  rw [← quotient]
  unfold leadingExponent
  simp only [Nat.pow_eq]
  split
  · next atLeastOne => exact pow_digits_le_div denominatorPositive atLeastOne
  · split
    · next isPower =>
        exact (pow_eq_div_of_eq_mul_pow numeratorPositive (length_digits_pos _) isPower).le
    · exact pow_neg_digits_le_div numeratorPositive denominatorPositive

/-! ### The search among the grids -/

/-- A point of a grid is off by half a step at most if it is off by half a unit
at most after division by the step. -/
theorem abs_sub_value_le {numerator denominator coefficient : ℕ} {exponent : ℤ}
    (positive : 0 < denominator)
    (onGrid : magnitude.value = (numerator : ℚ) / denominator * 10 ^ exponent)
    (near : 2 * |(coefficient : ℚ) * denominator - numerator| ≤ denominator) :
    |Numeral.value ⟨coefficient, exponent⟩ - magnitude.value| ≤ 10 ^ exponent / 2 := by
  have step : (0 : ℚ) < 10 ^ exponent := by positivity
  have denominatorPositive : (0 : ℚ) < denominator := by exact_mod_cast positive
  have difference : Numeral.value ⟨coefficient, exponent⟩ - magnitude.value =
      (coefficient * denominator - numerator) / denominator * 10 ^ exponent := by
    rw [onGrid, Numeral.value]
    field_simp
  rw [difference, abs_mul, abs_div, abs_of_pos step, abs_of_pos denominatorPositive,
    div_mul_eq_mul_div, div_le_div_iff₀ denominatorPositive (by norm_num)]
  nlinarith

/-- The lower neighbour of a quotient is off by the rest. -/
theorem near_of_rest_le {numerator denominator : ℕ}
    (atMostHalf : 2 * (numerator % denominator) ≤ denominator) :
    2 * |((numerator / denominator : ℕ) : ℚ) * denominator - numerator| ≤ denominator := by
  have parts : (denominator : ℚ) * (numerator / denominator : ℕ) + (numerator % denominator : ℕ) =
      numerator := by
    exact_mod_cast Nat.div_add_mod numerator denominator
  have difference : ((numerator / denominator : ℕ) : ℚ) * denominator - numerator =
      -((numerator % denominator : ℕ) : ℚ) := by linarith
  rw [difference, abs_neg, Nat.abs_cast]
  exact_mod_cast atMostHalf

/-- The upper neighbour is off by what the rest lacks. -/
theorem near_of_le_rest {numerator denominator : ℕ} (positive : 0 < denominator)
    (atLeastHalf : denominator ≤ 2 * (numerator % denominator)) :
    2 * |((numerator / denominator + 1 : ℕ) : ℚ) * denominator - numerator| ≤ denominator := by
  have parts : (denominator : ℚ) * (numerator / denominator : ℕ) + (numerator % denominator : ℕ) =
      numerator := by
    exact_mod_cast Nat.div_add_mod numerator denominator
  have rest : ((numerator % denominator : ℕ) : ℚ) < denominator := by
    exact_mod_cast Nat.mod_lt numerator positive
  have enough : (denominator : ℚ) ≤ 2 * ((numerator % denominator : ℕ) : ℚ) := by
    exact_mod_cast atLeastHalf
  have difference : ((numerator / denominator + 1 : ℕ) : ℚ) * denominator - numerator =
      denominator - ((numerator % denominator : ℕ) : ℚ) := by
    push_cast
    linarith
  rw [difference, abs_of_pos (by linarith)]
  linarith

/-- The first decimal that is tried on a grid is off by half a step at most. -/
theorem exists_firstTried (tie : Tie) (exponent : ℤ) :
    ∃ first second : Numeral,
      |first.value - magnitude.value| ≤ 10 ^ exponent / 2 ∧
      magnitude.nearestOnGrid tie exponent =
        if magnitude.roundsBack first then some first
        else if magnitude.roundsBack second then some second
        else none := by
  have quotient := magnitude.quotient_value (-exponent)
  have positive := magnitude.quotient_snd_pos (-exponent)
  unfold nearestOnGrid
  generalize magnitude.quotient (-exponent) = parts at quotient positive ⊢
  obtain ⟨numerator, denominator⟩ := parts
  simp only at quotient positive ⊢
  have onGrid : magnitude.value = numerator / denominator * 10 ^ exponent := by
    rw [quotient, mul_assoc, ← zpow_add₀ (by norm_num), neg_add_cancel, zpow_zero, mul_one]
  cases up : (if 2 * (numerator % denominator) = denominator
      then tie.goesUp (numerator / denominator)
      else decide (denominator < 2 * (numerator % denominator))) with
  | false =>
      have atMostHalf : 2 * (numerator % denominator) ≤ denominator := by
        split at up
        · next half => exact half.le
        · exact Nat.not_lt.mp (of_decide_eq_false up)
      exact ⟨_, _, abs_sub_value_le positive onGrid (near_of_rest_le atMostHalf), rfl⟩
  | true =>
      have atLeastHalf : denominator ≤ 2 * (numerator % denominator) := by
        split at up
        · next half => exact half.ge
        · exact (of_decide_eq_true up).le
      exact ⟨_, _, abs_sub_value_le positive onGrid (near_of_le_rest positive atLeastHalf), rfl⟩

theorem roundsBack_of_nearestOnGrid {tie : Tie} {exponent : ℤ} {numeral : Numeral}
    (found : magnitude.nearestOnGrid tie exponent = some numeral) :
    magnitude.roundsBack numeral = true := by
  obtain ⟨first, second, -, tried⟩ := magnitude.exists_firstTried tie exponent
  rw [tried] at found
  split at found
  · next inside => exact Option.some.inj found ▸ inside
  · split at found
    · next inside => exact Option.some.inj found ▸ inside
    · cases found

/-- A grid whose half step is less than the distance to either end of the
interval has a decimal inside. -/
theorem exists_nearestOnGrid (tie : Tie) {exponent : ℤ}
    (low : (10 : ℚ) ^ exponent / 2 < magnitude.value - magnitude.lowEnd)
    (high : (10 : ℚ) ^ exponent / 2 < magnitude.highEnd - magnitude.value) :
    ∃ numeral, magnitude.nearestOnGrid tie exponent = some numeral := by
  obtain ⟨first, second, near, tried⟩ := magnitude.exists_firstTried tie exponent
  obtain ⟨notBelow, notAbove⟩ := abs_le.mp near
  exact ⟨first, by rw [tried, if_pos (roundsBack_of_between (by linarith) (by linarith))]⟩

end Dyadic

variable {tie : Tie} {magnitude : Dyadic}

theorem roundsBack_of_searchGrids {count : ℕ} {exponent : ℤ} {numeral : Numeral}
    (found : searchGrids tie magnitude count exponent = some numeral) :
    magnitude.roundsBack numeral = true := by
  induction count generalizing exponent with
  | zero => cases found
  | succ count inductionHypothesis =>
      rw [searchGrids] at found
      split at found
      · next inside => exact Dyadic.roundsBack_of_nearestOnGrid (inside.trans found)
      · exact inductionHypothesis found

/-- A search that reaches a grid with a decimal inside finds one. -/
theorem exists_searchGrids {offset count : ℕ} {exponent : ℤ} {numeral : Numeral}
    (reached : offset < count)
    (inside : magnitude.nearestOnGrid tie (exponent - offset) = some numeral) :
    ∃ numeral, searchGrids tie magnitude count exponent = some numeral := by
  induction count generalizing offset exponent with
  | zero => exact absurd reached (Nat.not_lt_zero offset)
  | succ count inductionHypothesis =>
      rw [searchGrids]
      split
      · next earlier _ => exact ⟨earlier, rfl⟩
      · next none =>
          cases offset with
          | zero =>
              rw [Nat.cast_zero, sub_zero, none] at inside
              cases inside
          | succ offset =>
              refine inductionHypothesis (Nat.lt_of_succ_lt_succ reached) ?_
              rwa [Nat.cast_succ, add_comm (offset : ℤ), ← sub_sub] at inside

/-- Seventeen digits are enough for every double. -/
theorem exists_searchGrids_seventeen (tie : Tie) (positive : 0 < magnitude.significand)
    (bounded : magnitude.significand < 2 ^ 53) :
    ∃ numeral,
      searchGrids tie magnitude maximalDigits magnitude.leadingExponent = some numeral := by
  have step : (10 : ℚ) ^ (magnitude.leadingExponent - (16 : ℕ)) / 2 < magnitude.value / 2 ^ 54 := by
    have leading := Dyadic.pow_leadingExponent_le positive
    have valuePositive := Dyadic.value_pos positive
    rw [zpow_sub₀ (by norm_num), zpow_natCast]
    calc
      (10 : ℚ) ^ magnitude.leadingExponent / 10 ^ 16 / 2 ≤ magnitude.value / 10 ^ 16 / 2 := by
        gcongr
      _ < magnitude.value / 2 ^ 54 := by
        rw [div_div]
        gcongr
        norm_num
  obtain ⟨numeral, inside⟩ := Dyadic.exists_nearestOnGrid tie
    (step.trans_le (Dyadic.distance_lowEnd positive bounded))
    (step.trans_le (Dyadic.distance_highEnd bounded))
  exact exists_searchGrids (by decide) inside

/-! ### The shortest decimal -/

theorem Numeral.value_trim (steps : ℕ) (numeral : Numeral) :
    (numeral.trim steps).value = numeral.value := by
  induction steps generalizing numeral with
  | zero => rfl
  | succ steps inductionHypothesis =>
      rw [trim]
      split
      · next trailing =>
          rw [inductionHypothesis, value, value, zpow_add_one₀ (by norm_num)]
          have split : numeral.coefficient / 10 * 10 = numeral.coefficient :=
            Nat.div_mul_cancel (Nat.dvd_of_mod_eq_zero trailing.2)
          rw [mul_comm ((10 : ℚ) ^ numeral.exponent), ← mul_assoc]
          exact_mod_cast congrArg (fun coefficient : ℕ =>
            (coefficient : ℚ) * (10 : ℚ) ^ numeral.exponent) split
      · rfl

/-- The shortest decimal rounds back to the magnitude, zero included. -/
theorem roundsBack_shortest (tie : Tie) (bounded : magnitude.significand < 2 ^ 53) :
    magnitude.roundsBack (shortest tie magnitude) = true := by
  by_cases zero : magnitude.significand = 0
  · have lowEnd : magnitude.lowEnd = 0 := by
      simp [Dyadic.lowEnd, Dyadic.interval, zero, Binary.hiddenBit]
    have highEnd : 0 ≤ magnitude.highEnd := by
      unfold Dyadic.highEnd
      positivity
    have noValue : (shortest tie magnitude).value = 0 := by
      rw [shortest, if_pos zero, Numeral.value, Nat.cast_zero, zero_mul]
    rw [Dyadic.roundsBack_iff, noValue, lowEnd, zero, if_pos (Nat.zero_mod 2)]
    exact ⟨le_rfl, highEnd⟩
  · obtain ⟨numeral, found⟩ :=
      exists_searchGrids_seventeen tie (Nat.pos_of_ne_zero zero) bounded
    simp only [shortest, if_neg zero, found, Option.getD_some]
    rw [Dyadic.roundsBack_congr _ (numeral.value_trim maximalDigits)]
    exact roundsBack_of_searchGrids found

/-- A shortest decimal without digits other than zero is written without an
exponent. -/
theorem shortest_exponent_of_coefficient (tie : Tie) (bounded : magnitude.significand < 2 ^ 53)
    (zero : (shortest tie magnitude).coefficient = 0) :
    (shortest tie magnitude).exponent = 0 := by
  by_cases noSignificand : magnitude.significand = 0
  · simp only [shortest, if_pos noSignificand]
  · exfalso
    have positive : 0 < magnitude.significand := Nat.pos_of_ne_zero noSignificand
    have inside := roundsBack_shortest tie bounded
    have noValue : (shortest tie magnitude).value = 0 := by
      rw [Numeral.value, zero, Nat.cast_zero, zero_mul]
    have lowPositive := Dyadic.lowEnd_pos positive
    rw [Dyadic.roundsBack_iff, noValue] at inside
    split at inside
    · exact absurd inside.1 (not_le.mpr lowPositive)
    · exact absurd inside.1 (not_lt.mpr lowPositive.le)

end Throughput.Decimal
