import Throughput.Proofs.Decimal.Word
import Throughput.Statistics

/-!
Contract: the operations that change no double.

Owns:
- `negative_zero_add` and `div_one`, on every double;
- `mean_singleton`: the mean of one value is that value, to the last bit.

A quotient by one is computed on a mantissa with more bits than the format has;
those bits are zero, so rounding takes them away again.
-/

namespace Throughput

open Decimal Float.Model Float.Model.UnpackedFloat

/-! ### Mantissas in place -/

/-- The mantissa and the exponent of a double: 53 bits, fewer only at the least
exponent. -/
structure Canonical (mantissa : Nat) (exponent : Int) : Prop where
  positive : 0 < mantissa
  below : mantissa < 2 ^ 53
  least : -1074 ≤ exponent
  full : -1074 < exponent → 2 ^ 52 ≤ mantissa

variable {mantissa : Nat} {exponent : Int}

namespace Canonical

theorem log2_le (canonical : Canonical mantissa exponent) : mantissa.log2 ≤ 52 :=
  Nat.le_of_lt_succ ((Nat.log2_lt canonical.positive.ne').mpr canonical.below)

theorem log2_eq (canonical : Canonical mantissa exponent) (above : -1074 < exponent) :
    mantissa.log2 = 52 :=
  (Nat.log2_eq_iff canonical.positive.ne').mpr ⟨canonical.full above, canonical.below⟩

/-- The format asks for the exponent that is there. -/
theorem targetExponent_eq (canonical : Canonical mantissa exponent) :
    Format.binary64.targetExponent (totalExponent mantissa exponent) = exponent := by
  have short := canonical.log2_le
  have least := canonical.least
  simp only [Format.targetExponent, totalExponent, Format.mantissaBits, Format.minExponent]
  by_cases above : -1074 < exponent
  · have long := canonical.log2_eq above
    omega
  · omega

end Canonical

theorem canonical_ofWord {word : Nat} (positive : 0 < (Dyadic.ofWord word).significand) :
    Canonical (Dyadic.ofWord word).significand (Dyadic.ofWord word).exponent := by
  rw [Dyadic.ofWord, hiddenBit_eq, Binary.leastExponent] at positive ⊢
  split at positive
  · next subnormal =>
    rw [if_pos subnormal]
    exact ⟨positive, by dsimp only; omega, le_rfl, fun above => absurd above (lt_irrefl _)⟩
  · next normal =>
    rw [if_neg normal]
    exact ⟨positive, by dsimp only; omega, by dsimp only; omega, fun _ => Nat.le_add_right ..⟩

theorem canonical_of_unpack {bits : BitVec Format.binary64.numBits} {sign : Sign}
    {positive : 0 < mantissa}
    (isFinite : UnpackedFloat.unpack .binary64 bits = .finite sign mantissa exponent positive) :
    Canonical mantissa exponent := by
  rcases unpack_cases bits with ⟨-, unpacked⟩ | ⟨-, _, unpacked⟩ | ⟨-, unpacked⟩ |
    ⟨-, unpacked⟩ <;> cases unpacked.symm.trans isFinite
  exact canonical_ofWord positive

/-! ### Rounding what is exact -/

theorem shiftToTargetExponent_in_place
    (inPlace : Format.binary64.targetExponent (totalExponent mantissa exponent) = exponent) :
    shiftToTargetExponent .binary64 mantissa exponent .exact =
      (⟨mantissa, false, false⟩, exponent) := by
  have unshifted : ∀ extended : ExtendedMantissa, extended >>> (0 : Nat) = extended :=
    fun _ => rfl
  simp [shiftToTargetExponent, inPlace, shiftToExponent, unshifted,
    ExtendedMantissa.ofMantissaAndAccuracy]

theorem shiftToTargetExponent_double (canonical : Canonical mantissa exponent)
    (above : -1074 < exponent) :
    shiftToTargetExponent .binary64 (2 * mantissa) (exponent - 1) .exact =
      (⟨mantissa, false, false⟩, exponent) := by
  have long := canonical.log2_eq above
  have target : Format.binary64.targetExponent (totalExponent (2 * mantissa) (exponent - 1)) =
      exponent := by
    simp only [Format.targetExponent, totalExponent, Format.mantissaBits, Format.minExponent,
      Nat.log2_two_mul canonical.positive.ne', long]
    omega
  have one : (exponent - (exponent - 1)).toNat = 1 := by omega
  have halved : (⟨2 * mantissa, false, false⟩ : ExtendedMantissa) >>> (1 : Nat) =
      ⟨mantissa, false, false⟩ := by
    change ExtendedMantissa.shiftRightOne ⟨2 * mantissa, false, false⟩ = _
    simp [ExtendedMantissa.shiftRightOne]
  simp only [shiftToTargetExponent, target, shiftToExponent, one,
    ExtendedMantissa.ofMantissaAndAccuracy, halved, Nat.cast_one, sub_add_cancel]

/-- What is shifted to a mantissa in place without a rest is rounded to it. -/
theorem roundWithAccuracy_of_shifted {mantissa' : Nat} {exponent' : Int} (sign : Sign)
    (canonical : Canonical mantissa exponent)
    (shifted : shiftToTargetExponent .binary64 mantissa' exponent' .exact =
      (⟨mantissa, false, false⟩, exponent)) :
    roundWithAccuracy .binary64 sign mantissa' exponent' .exact =
      .finite sign mantissa exponent canonical.positive := by
  have again := shiftToTargetExponent_in_place canonical.targetExponent_eq
  rw [roundWithAccuracy, shifted]
  simp only [ExtendedMantissa.roundedMantissa, ExtendedMantissa.accuracy,
    Accuracy.roundToNearestEven, again, dif_neg canonical.positive.ne']

/-! ### The neutral operands -/

/-- A quotient by one has no rest, whatever bits are added to it. -/
theorem divCore_one {extra : Nat}
    (target : min (exponent + 52)
      (Format.binary64.targetExponent (totalExponent mantissa exponent - 1)) = exponent - extra) :
    divCore .binary64 mantissa exponent (2 ^ 52) (-52) =
      (mantissa * 2 ^ extra, exponent - extra, .exact) := by
  have one : totalExponent (2 ^ 52) (-52) = 1 := rfl
  have shift : (exponent + 52 - (exponent - extra)).toNat = extra + 52 := by omega
  rw [divCore]
  simp only [one, sub_neg_eq_add, target, shift, Nat.shiftLeft_eq, pow_add, ← mul_assoc,
    Nat.mul_div_cancel _ (Nat.two_pow_pos 52), Nat.mul_mod_left, accuracyOfFraction, if_true]

theorem div_one_finite (sign : Sign) (canonical : Canonical mantissa exponent) :
    UnpackedFloat.div .binary64 (.finite sign mantissa exponent canonical.positive)
        (.finite .positive (2 ^ 52) (-52) (by decide)) =
      .finite sign mantissa exponent canonical.positive := by
  have sameSign : sign / Sign.positive = sign := by cases sign <;> rfl
  have short := canonical.log2_le
  have least := canonical.least
  rw [UnpackedFloat.div, sameSign]
  by_cases above : -1074 < exponent
  · have core : divCore .binary64 mantissa exponent (2 ^ 52) (-52) =
        (mantissa * 2 ^ 1, exponent - (1 : Nat), .exact) := by
      refine divCore_one ?_
      have long := canonical.log2_eq above
      simp only [Format.targetExponent, totalExponent, Format.mantissaBits, Format.minExponent]
      omega
    simp only [core, pow_one, mul_comm mantissa]
    exact roundWithAccuracy_of_shifted sign canonical (shiftToTargetExponent_double canonical above)
  · have core : divCore .binary64 mantissa exponent (2 ^ 52) (-52) =
        (mantissa * 2 ^ 0, exponent - (0 : Nat), .exact) := by
      refine divCore_one ?_
      simp only [Format.targetExponent, totalExponent, Format.mantissaBits, Format.minExponent]
      omega
    simp only [core, pow_zero, mul_one, Nat.cast_zero, sub_zero]
    exact roundWithAccuracy_of_shifted sign canonical
      (shiftToTargetExponent_in_place canonical.targetExponent_eq)

theorem negative_zero_add (value : Float) : -0.0 + value = value := by
  have operand : (-0.0 : Float).toModel.unpack = .zero .negative := rfl
  have sum : UnpackedFloat.add .binary64 (.zero .negative) value.toModel.unpack =
      value.toModel.unpack := by
    cases value.toModel.unpack with
    | zero sign => cases sign <;> rfl
    | notANumber => rfl
    | infinity sign => rfl
    | finite sign mantissa exponent positive => rfl
  calc
    -0.0 + value = .ofModel (.pack (UnpackedFloat.add .binary64
        (-0.0 : Float).toModel.unpack value.toModel.unpack)) := rfl
    _ = .ofModel (.pack value.toModel.unpack) := by rw [operand, sum]
    _ = value := Float.ofBits_toBits value

theorem div_one (value : Float) : value / Float.ofNat 1 = value := by
  have operand : (Float.ofNat 1).toModel.unpack =
      .finite .positive (2 ^ 52) (-52) (by decide) := rfl
  have quotient : UnpackedFloat.div .binary64 value.toModel.unpack
      (.finite .positive (2 ^ 52) (-52) (by decide)) = value.toModel.unpack := by
    cases isOperand : value.toModel.unpack with
    | zero sign => cases sign <;> rfl
    | notANumber => rfl
    | infinity sign => cases sign <;> rfl
    | finite sign mantissa exponent positive =>
        exact div_one_finite sign (canonical_of_unpack isOperand)
  calc
    value / Float.ofNat 1 = .ofModel (.pack (UnpackedFloat.div .binary64
        value.toModel.unpack (Float.ofNat 1).toModel.unpack)) := rfl
    _ = .ofModel (.pack value.toModel.unpack) := by rw [operand, quotient]
    _ = value := Float.ofBits_toBits value

/-- The mean of one value is that value. -/
theorem mean_singleton (value : Float) : mean [value] = value := by
  change (-0.0 + value) / Float.ofNat 1 = value
  rw [negative_zero_add, div_one]

end Throughput
