import Mathlib
import Throughput.Decimal.Binary

/-!
Contract: the words behind the doubles.

Owns:
- `Dyadic.ofWord`, the magnitude of a word without its sign, and the reading of
  a word in these terms;
- `unpack_cases`, the value with which a double computes, in the same terms;
- `reading_of_isFinite`, `toBits_of_finite`, `eq_infinity` and `eq_nan`: which
  doubles have which reading;
- `beq_self_iff_isNaN`, which doubles are equal to themselves.

The words of the finite doubles of one sign stand below `infinityWord` and in
the order of their magnitudes. What is known of `Float` itself stands in no part
of Mathlib that could be imported alone.
-/

namespace Throughput.Decimal

/-- The magnitude of a word whose sign is taken away. -/
def Dyadic.ofWord (word : Nat) : Dyadic :=
  if word < Binary.hiddenBit then ⟨word, Binary.leastExponent⟩
  else
    ⟨Binary.hiddenBit + word % Binary.hiddenBit,
      Binary.leastExponent + (word / Binary.hiddenBit - 1 : Nat)⟩

/-- The word of positive infinity, the first that is no finite number. -/
def infinityWord : Nat := 2047 * Binary.hiddenBit

/-- What is added to a word of a negative number. -/
def signWord (negative : Bool) : Nat :=
  if negative then Nat.pow 2 63 else 0

theorem hiddenBit_eq : Binary.hiddenBit = 2 ^ 52 :=
  rfl

theorem infinityWord_eq : infinityWord = 2047 * 2 ^ 52 :=
  rfl

/-- From infinity on the field of the exponent is full. -/
theorem lt_infinityWord_iff {word : Nat} (below : word < 2 ^ 63) :
    word < infinityWord ↔ word / Binary.hiddenBit ≠ 2047 := by
  rw [hiddenBit_eq, infinityWord_eq]
  omega

theorem eq_infinityWord_iff {word : Nat} (top : word / Binary.hiddenBit = 2047) :
    word = infinityWord ↔ word % Binary.hiddenBit = 0 := by
  rw [hiddenBit_eq] at top ⊢
  rw [infinityWord_eq]
  omega

/-- The reading of a word: the finite numbers stand below infinity. -/
theorem ofBits_eq {bits : Nat} (bounded : bits < 2 ^ 64) :
    Binary.ofBits bits =
      if bits % 2 ^ 63 < infinityWord then
        .finite (bits / 2 ^ 63 = 1) (Dyadic.ofWord (bits % 2 ^ 63))
      else if bits % 2 ^ 63 = infinityWord then .infinite (bits / 2 ^ 63 = 1)
      else .notANumber := by
  have field : bits / Binary.hiddenBit % Nat.pow 2 11 = bits % 2 ^ 63 / Binary.hiddenBit := by
    rw [hiddenBit_eq, Nat.pow_eq]
    omega
  have fraction : bits % Binary.hiddenBit = bits % 2 ^ 63 % Binary.hiddenBit := by
    rw [hiddenBit_eq]
    omega
  have sign : bits / Nat.pow 2 63 % 2 = bits / 2 ^ 63 := by
    rw [Nat.pow_eq]
    omega
  have below : bits % 2 ^ 63 < 2 ^ 63 := Nat.mod_lt _ (by decide)
  simp only [Binary.ofBits, field, fraction, sign]
  generalize bits % 2 ^ 63 = word at below
  by_cases top : word / Binary.hiddenBit = 2047
  · have notBelow : ¬word < infinityWord := fun isBelow => (lt_infinityWord_iff below).mp isBelow top
    rw [if_pos top, if_neg notBelow, if_congr (eq_infinityWord_iff top).symm rfl rfl]
  · have bottom : word / Binary.hiddenBit = 0 ↔ word < Binary.hiddenBit := by
      rw [hiddenBit_eq]
      omega
    rw [if_neg top, if_pos ((lt_infinityWord_iff below).mpr top), if_congr bottom rfl rfl,
      Dyadic.ofWord]
    split
    · next subnormal => rw [Nat.mod_eq_of_lt subnormal]
    · rfl

section Bits

open Float.Model Float.Model.UnpackedFloat

variable (bits : BitVec Format.binary64.numBits)

theorem unpackExponent_toNat :
    (unpackExponent bits).toNat = bits.toNat / 2 ^ 52 % 2 ^ 11 := by
  simp [unpackExponent, BitVec.extractLsb, Nat.shiftRight_eq_div_pow]

theorem unpackMantissa_toNat : (unpackMantissa bits).toNat = bits.toNat % 2 ^ 52 := by
  simp [unpackMantissa, BitVec.extractLsb]

theorem unpackExponent_eq_top :
    unpackExponent bits = -1#_ ↔ bits.toNat / 2 ^ 52 % 2 ^ 11 = 2047 := by
  rw [← unpackExponent_toNat, ← BitVec.toNat_inj]
  rfl

theorem ofBitVec_unpackSign :
    Sign.ofBitVec (unpackSign bits) = .positive ↔ bits.toNat < 2 ^ 63 := by
  have bounded : bits.toNat < 2 ^ 64 := bits.isLt
  have sign : (unpackSign bits).toNat = bits.toNat / 2 ^ 63 % 2 := by
    simp [unpackSign, BitVec.extractLsb, Nat.shiftRight_eq_div_pow]
  have isZero : unpackSign bits = 0#1 ↔ bits.toNat < 2 ^ 63 := by
    rw [← BitVec.toNat_inj, sign, BitVec.toNat_zero]
    omega
  rw [← isZero, Sign.ofBitVec]
  split
  · next zero => exact iff_of_true rfl zero
  · next one => exact iff_of_false nofun one

/-- A pattern with an empty exponent field is its own significand. -/
theorem ofWord_of_low (low : bits.toNat / 2 ^ 52 % 2 ^ 11 = 0) :
    Dyadic.ofWord (bits.toNat % 2 ^ 63) = ⟨(unpackMantissa bits).toNat,
      ((unpackExponent bits).toNat : Int) - (Format.binary64.exponentBias + 52) + 1⟩ := by
  have bias : Format.binary64.exponentBias = 1023 := rfl
  rw [Dyadic.ofWord, hiddenBit_eq, if_pos (by omega), unpackMantissa_toNat, unpackExponent_toNat,
    low, bias]
  congr 1
  omega

theorem toNat_hidden :
    (1#1 ++ unpackMantissa bits).toNat = 2 ^ 52 + bits.toNat % 2 ^ 52 := by
  rw [BitVec.toNat_append, ← Nat.shiftLeft_add_eq_or_of_lt (unpackMantissa bits).isLt,
    unpackMantissa_toNat]
  rfl

/-- A pattern with any other exponent field has a hidden bit before its fraction. -/
theorem ofWord_of_high (high : bits.toNat / 2 ^ 52 % 2 ^ 11 ≠ 0) :
    Dyadic.ofWord (bits.toNat % 2 ^ 63) = ⟨(1#1 ++ unpackMantissa bits).toNat,
      ((unpackExponent bits).toNat : Int) - (Format.binary64.exponentBias + 52)⟩ := by
  have bias : Format.binary64.exponentBias = 1023 := rfl
  rw [Dyadic.ofWord, hiddenBit_eq, if_neg (by omega), toNat_hidden, unpackExponent_toNat, bias,
    Binary.leastExponent]
  congr 1 <;> omega

/-- What a pattern stands for, by its word without the sign. -/
theorem unpack_cases :
    let sign := Sign.ofBitVec (unpackSign bits)
    let word := bits.toNat % 2 ^ 63
    (word = 0 ∧ UnpackedFloat.unpack .binary64 bits = .zero sign) ∨
      (word < infinityWord ∧ ∃ positive, UnpackedFloat.unpack .binary64 bits =
        .finite sign (Dyadic.ofWord word).significand (Dyadic.ofWord word).exponent positive) ∨
      (word = infinityWord ∧ UnpackedFloat.unpack .binary64 bits = .infinity sign) ∨
      (infinityWord < word ∧ UnpackedFloat.unpack .binary64 bits = .notANumber) := by
  intro sign word
  have isWord : word = bits.toNat % 2 ^ 63 := rfl
  have full := unpackExponent_eq_top bits
  have bottom : unpackExponent bits = 0#_ ↔ bits.toNat / 2 ^ 52 % 2 ^ 11 = 0 := by
    rw [← unpackExponent_toNat, ← BitVec.toNat_inj]
    rfl
  have empty : unpackMantissa bits = 0#_ ↔ bits.toNat % 2 ^ 52 = 0 := by
    rw [← unpackMantissa_toNat, ← BitVec.toNat_inj]
    rfl
  rw [UnpackedFloat.unpack]
  simp only
  -- The field of the exponent: full, empty, or that of a number with a hidden bit.
  by_cases top : bits.toNat / 2 ^ 52 % 2 ^ 11 = 2047
  · rw [if_pos (full.mpr top), infinityWord_eq]
    by_cases zero : bits.toNat % 2 ^ 52 = 0
    · exact .inr (.inr (.inl ⟨by omega, if_pos (empty.mpr zero)⟩))
    · exact .inr (.inr (.inr ⟨by omega, if_neg (mt empty.mp zero)⟩))
  · have below : word < infinityWord := by
      rw [infinityWord_eq]
      omega
    rw [if_neg (mt full.mp top)]
    by_cases low : bits.toNat / 2 ^ 52 % 2 ^ 11 = 0
    · rw [if_pos (bottom.mpr low)]
      by_cases zero : bits.toNat % 2 ^ 52 = 0
      · exact .inl ⟨by omega, dif_pos (empty.mpr zero)⟩
      · rw [isWord, ofWord_of_low bits low]
        have positive : 0 < (unpackMantissa bits).toNat :=
          unpackMantissa_toNat bits ▸ Nat.pos_of_ne_zero zero
        exact .inr (.inl ⟨below, positive, dif_neg (mt empty.mp zero)⟩)
    · rw [if_neg (mt bottom.mp low), isWord, ofWord_of_high bits low]
      have positive : 0 < (1#1 ++ unpackMantissa bits).toNat := by
        rw [toNat_hidden]
        omega
      exact .inr (.inl ⟨below, positive, rfl⟩)

theorem isFinite_unpack :
    (UnpackedFloat.unpack .binary64 bits).isFinite = true ↔ bits.toNat % 2 ^ 63 < infinityWord := by
  have positive : 0 < infinityWord := by decide
  rcases unpack_cases bits with ⟨zero, unpacked⟩ | ⟨below, _, unpacked⟩ | ⟨top, unpacked⟩ |
    ⟨above, unpacked⟩ <;> rw [unpacked]
  · exact iff_of_true rfl (zero ▸ positive)
  · exact iff_of_true rfl below
  · exact iff_of_false nofun top.not_lt
  · exact iff_of_false nofun above.asymm

theorem isNaN_unpack (above : infinityWord < bits.toNat % 2 ^ 63) :
    (UnpackedFloat.unpack .binary64 bits).isNaN = true := by
  rcases unpack_cases bits with ⟨zero, -⟩ | ⟨below, -⟩ | ⟨top, -⟩ | ⟨-, unpacked⟩
  · omega
  · omega
  · omega
  · rw [unpacked]
    rfl

end Bits

/-! ### The doubles -/

variable {value : Float} {negative : Bool} {magnitude : Dyadic}

theorem isFinite_iff :
    value.isFinite = true ↔ value.toBits.toNat % 2 ^ 63 < infinityWord :=
  isFinite_unpack value.toBits.toBitVec

/-- The parts of a word that are read back from what it stands for. -/
private theorem toBits_eq (value : Float) : value.toBits.toNat =
    value.toBits.toNat % 2 ^ 63 + signWord (value.toBits.toNat / 2 ^ 63 = 1) := by
  have bounded := value.toBits.toNat_lt
  unfold signWord
  by_cases sign : value.toBits.toNat / 2 ^ 63 = 1
  · rw [decide_eq_true sign, if_pos rfl, Nat.pow_eq]
    omega
  · rw [decide_eq_false sign, if_neg Bool.false_ne_true]
    omega

theorem toBits_of_finite (isFinite : reading value = .finite negative magnitude) :
    ∃ word < infinityWord, Dyadic.ofWord word = magnitude ∧
      value.toBits.toNat = word + signWord negative := by
  rw [reading, ofBits_eq value.toBits.toNat_lt] at isFinite
  split at isFinite
  · next below =>
      cases isFinite
      exact ⟨_, below, rfl, toBits_eq value⟩
  · split at isFinite <;> cases isFinite

theorem reading_of_isFinite (isFinite : value.isFinite = true) :
    ∃ negative magnitude, reading value = .finite negative magnitude := by
  have bounded := value.toBits.toNat_lt
  exact ⟨_, _, by rw [reading, ofBits_eq bounded, if_pos (isFinite_iff.mp isFinite)]⟩

theorem reading_of_not_isFinite (notFinite : ¬value.isFinite = true) :
    reading value = .notANumber ∨ ∃ negative, reading value = .infinite negative := by
  rw [isFinite_iff] at notFinite
  rw [reading, ofBits_eq value.toBits.toNat_lt, if_neg notFinite]
  split
  · exact .inr ⟨_, rfl⟩
  · exact .inl rfl

/-- There is one infinity of either sign. -/
theorem eq_infinity (isInfinite : reading value = .infinite negative) :
    value = if negative then -Float.inf else Float.inf := by
  rw [reading, ofBits_eq value.toBits.toNat_lt] at isInfinite
  split at isInfinite
  · cases isInfinite
  · split at isInfinite
    · next atInfinity =>
        have bits := toBits_eq value
        rw [atInfinity] at bits
        rw [← Float.toBits_inj, ← UInt64.toNat_inj, bits]
        cases isInfinite
        by_cases sign : value.toBits.toNat / 2 ^ 63 = 1
        · simp only [sign]
          rfl
        · simp only [sign]
          rfl
    · cases isInfinite

/-- There is one double only that is no number. -/
theorem eq_nan (isNothing : reading value = .notANumber) : value = Float.nan := by
  have bounded := value.toBits.toNat_lt
  have above : infinityWord < value.toBits.toNat % 2 ^ 63 := by
    rw [reading, ofBits_eq bounded] at isNothing
    split at isNothing
    · cases isNothing
    · split at isNothing
      · cases isNothing
      · omega
  have isNaN : value.isNaN = true := isNaN_unpack value.toBits.toBitVec above
  rwa [Float.isNaN_eq_decide_eq_nan, decide_eq_true_eq] at isNaN

/-- Only what is no number differs from itself. -/
theorem beq_self_iff_isNaN (value : Float) : (value == value) = true ↔ value.isNaN = false := by
  rw [Float.beq_self_iff, Float.isNaN_eq_decide_eq_nan, decide_eq_false_iff_not]

end Throughput.Decimal
