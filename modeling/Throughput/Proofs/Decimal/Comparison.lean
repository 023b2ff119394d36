import Throughput.Proofs.Decimal.Word

/-!
Contract: the order of the positive doubles.

Owns:
- `Dyadic.compare_ofWord`, the order of magnitudes by exponent and significand
  as the order of their words;
- `Positive`, the doubles above zero, infinity among them;
- `lt_iff_toBits_lt` and `le_iff_toBits_le`: positive doubles are compared as
  their words are.

Does not own: the order of the other doubles. Among those two zeros have
different words, and what is no number is not compared at all.
-/

namespace Throughput.Decimal

/-! ### Magnitudes -/

namespace Dyadic

theorem ofWord_lt {left right : Nat} (less : left < right) :
    (ofWord left).exponent < (ofWord right).exponent ∨
      (ofWord left).exponent = (ofWord right).exponent ∧
        (ofWord left).significand < (ofWord right).significand := by
  unfold ofWord
  rw [hiddenBit_eq, Binary.leastExponent]
  split <;> split <;> dsimp only <;> omega

/-- Magnitudes are compared by their exponents first; so are their words. -/
theorem compare_ofWord (left right : Nat) :
    (compare (ofWord left).exponent (ofWord right).exponent).then
        (compare (ofWord left).significand (ofWord right).significand) =
      compare left right := by
  rcases lt_trichotomy left right with less | rfl | greater
  · rw [Nat.compare_eq_lt.mpr less, Ordering.then_eq_lt, Int.compare_eq_lt, Int.compare_eq_eq,
      Nat.compare_eq_lt]
    exact ofWord_lt less
  · rw [Std.compare_self, Std.compare_self, Std.compare_self, Ordering.then_self]
  · rw [Nat.compare_eq_gt.mpr greater, Ordering.then_eq_gt, Int.compare_eq_gt, Int.compare_eq_eq,
      Nat.compare_eq_gt]
    exact (ofWord_lt greater).imp_right (.imp_left Eq.symm)

end Dyadic

/-! ### Positive doubles -/

open Float.Model Float.Model.UnpackedFloat

/-- What stands above zero: a finite number or infinity. -/
def Positive : UnpackedFloat → Prop
  | .infinity sign => sign = .positive
  | .finite sign _ _ _ => sign = .positive
  | .zero _ => False
  | .notANumber => False

/-- The words of the positive numbers end with infinity. -/
theorem Positive.word {bits : BitVec Format.binary64.numBits}
    (positive : Positive (.unpack .binary64 bits)) :
    (UnpackedFloat.unpack .binary64 bits = .infinity .positive ∧ bits.toNat = infinityWord) ∨
      (∃ isPositive, UnpackedFloat.unpack .binary64 bits = .finite .positive
          (Dyadic.ofWord bits.toNat).significand (Dyadic.ofWord bits.toNat).exponent isPositive) ∧
        bits.toNat < infinityWord := by
  have unsigned : Sign.ofBitVec (unpackSign bits) = .positive → bits.toNat % 2 ^ 63 = bits.toNat :=
    fun sign => Nat.mod_eq_of_lt ((ofBitVec_unpackSign bits).mp sign)
  rcases unpack_cases bits with ⟨-, unpacked⟩ | ⟨below, isPositive, unpacked⟩ | ⟨top, unpacked⟩ |
    ⟨-, unpacked⟩ <;> rw [unpacked] at positive
  · exact positive.elim
  · have sign : Sign.ofBitVec (unpackSign bits) = .positive := positive
    simp only [sign, unsigned sign] at below unpacked
    exact .inr ⟨⟨_, unpacked⟩, below⟩
  · have sign : Sign.ofBitVec (unpackSign bits) = .positive := positive
    simp only [sign, unsigned sign] at top unpacked
    exact .inl ⟨unpacked, top⟩
  · exact positive.elim

/-- Positive numbers are compared as their words are. -/
theorem compare_of_positive {left right : BitVec Format.binary64.numBits}
    (leftPositive : Positive (.unpack .binary64 left))
    (rightPositive : Positive (.unpack .binary64 right)) :
    UnpackedFloat.compare (.unpack .binary64 left) (.unpack .binary64 right) =
      some (compare left.toNat right.toNat) := by
  rcases leftPositive.word with ⟨isLeft, leftTop⟩ | ⟨⟨_, isLeft⟩, leftBelow⟩ <;>
    rcases rightPositive.word with ⟨isRight, rightTop⟩ | ⟨⟨_, isRight⟩, rightBelow⟩ <;>
    rw [isLeft, isRight]
  -- Infinity has the last word; two finite numbers are compared as magnitudes.
  · rw [leftTop, rightTop, Std.compare_self]
    rfl
  · rw [leftTop, Nat.compare_eq_gt.mpr rightBelow]
    rfl
  · rw [rightTop, Nat.compare_eq_lt.mpr leftBelow]
    rfl
  · rw [← Dyadic.compare_ofWord]
    rfl

/-- What exceeds a positive number is positive. -/
theorem Positive.of_compare {low value : UnpackedFloat} (positive : Positive low)
    (above : low.compare value = some .lt) : Positive value := by
  cases low with
  | notANumber => exact positive.elim
  | zero => exact positive.elim
  | infinity sign =>
    obtain rfl : sign = .positive := positive
    cases value with
    | infinity sign => cases sign <;> cases above
    | _ => cases above
  | finite sign =>
    obtain rfl : sign = .positive := positive
    cases value with
    | notANumber => cases above
    | zero => cases above
    | infinity sign =>
      cases sign with
      | negative => cases above
      | positive => rfl
    | finite sign =>
      cases sign with
      | negative => cases above
      | positive => rfl

variable {left right : Float}

theorem lt_iff_compare :
    left < right ↔ left.toModel.unpack.compare right.toModel.unpack = some .lt := by
  change decide (left.toModel < right.toModel) = true ↔ _
  rw [decide_eq_true_iff]
  exact beq_iff_eq

theorem le_iff_compare :
    left ≤ right ↔
      (left.toModel.unpack.compare right.toModel.unpack).any Ordering.isLE = true := by
  change decide (left.toModel ≤ right.toModel) = true ↔ _
  rw [decide_eq_true_iff]
  rfl

theorem lt_iff_toBits_lt (leftPositive : Positive left.toModel.unpack)
    (rightPositive : Positive right.toModel.unpack) :
    left < right ↔ left.toBits.toNat < right.toBits.toNat := by
  rw [lt_iff_compare, Float.Model.unpack, Float.Model.unpack,
    compare_of_positive leftPositive rightPositive, Option.some_inj, Nat.compare_eq_lt]
  rfl

theorem le_iff_toBits_le (leftPositive : Positive left.toModel.unpack)
    (rightPositive : Positive right.toModel.unpack) :
    left ≤ right ↔ left.toBits.toNat ≤ right.toBits.toNat := by
  rw [le_iff_compare, Float.Model.unpack, Float.Model.unpack,
    compare_of_positive leftPositive rightPositive, Option.any_some, Nat.isLE_compare]
  rfl

end Throughput.Decimal
