import Throughput.Proofs.Decimal.Interval
import Throughput.Proofs.Decimal.Word

/-!
Contract: the double that is nearest to a decimal.

Owns:
- `Dyadic.reaches`, the half of `Dyadic.roundsBack` that looks at the lower end
  of an interval;
- `nearestWord` and `nearest`, which look for the last word whose interval a
  decimal reaches, one bit after the other;
- the statement that every decimal in the interval of a double is read as that
  double.

The intervals of consecutive words share an end, which belongs to the even one
of the two; so each decimal has one word that it reaches last.
-/

namespace Throughput.Decimal

/-! ### Consecutive words -/

namespace Dyadic

variable {word : ℕ}

theorem ofWord_significand_lt (word : ℕ) : (ofWord word).significand < 2 ^ 53 := by
  unfold ofWord
  have rest : word % Binary.hiddenBit < Binary.hiddenBit := Nat.mod_lt _ (by decide)
  rw [hiddenBit_eq] at rest ⊢
  split <;> (dsimp only; omega)

theorem ofWord_significand_mod_two (word : ℕ) :
    (ofWord word).significand % 2 = word % 2 := by
  unfold ofWord
  rw [hiddenBit_eq]
  split
  · rfl
  · dsimp only
    omega

theorem lowEnd_lt_highEnd (magnitude : Dyadic) : magnitude.lowEnd < magnitude.highEnd := by
  have quarters : magnitude.interval.1 < magnitude.interval.2 := by
    unfold interval
    dsimp only
    omega
  unfold lowEnd highEnd
  gcongr

/-- The magnitude after another one has the next significand, or it is the
first of the next binade. -/
theorem ofWord_succ (word : ℕ) :
    (ofWord (word + 1) = ⟨(ofWord word).significand + 1, (ofWord word).exponent⟩ ∧
      ((ofWord word).significand + 1 = Binary.hiddenBit →
        (ofWord word).exponent = Binary.leastExponent)) ∨
    ((ofWord word).significand + 1 = 2 * Binary.hiddenBit ∧
      ofWord (word + 1) = ⟨Binary.hiddenBit, (ofWord word).exponent + 1⟩ ∧
      Binary.leastExponent ≤ (ofWord word).exponent) := by
  unfold ofWord
  rw [hiddenBit_eq]
  by_cases subnormal : word < 2 ^ 52
  · rw [if_pos subnormal]
    refine .inl ⟨?_, fun _ => rfl⟩
    by_cases last : word + 1 < 2 ^ 52
    · rw [if_pos last]
    · rw [if_neg last, show word = 2 ^ 52 - 1 by omega]
      rfl
  · rw [if_neg subnormal, if_neg (by omega : ¬word + 1 < 2 ^ 52)]
    by_cases last : (word + 1) % 2 ^ 52 = 0
    · have significand : word % 2 ^ 52 = 2 ^ 52 - 1 := by omega
      have field : (word + 1) / 2 ^ 52 - 1 = word / 2 ^ 52 - 1 + 1 := by omega
      refine .inr ⟨by dsimp only; omega, ?_, by dsimp only; omega⟩
      rw [last, field]
      simp [add_assoc]
    · have significand : (word + 1) % 2 ^ 52 = word % 2 ^ 52 + 1 := by omega
      have field : (word + 1) / 2 ^ 52 = word / 2 ^ 52 := by omega
      refine .inl ⟨?_, fun first => by dsimp only at first; omega⟩
      rw [significand, field, add_assoc]

/-- The interval of a word ends where that of the next one starts. -/
theorem highEnd_ofWord (word : ℕ) : (ofWord word).highEnd = (ofWord (word + 1)).lowEnd := by
  have next := ofWord_succ word
  generalize ofWord word = magnitude at next ⊢
  obtain ⟨significand, exponent⟩ := magnitude
  dsimp only at next
  rcases next with ⟨next, first⟩ | ⟨last, next, least⟩
  · have inside : ¬(significand + 1 = Binary.hiddenBit ∧ Binary.leastExponent < exponent) :=
      fun binade => absurd (first binade.1) binade.2.ne'
    have quarters : 4 * (significand + 1) - 2 = 4 * significand + 2 := by omega
    rw [next, highEnd, lowEnd, interval, interval]
    simp only [if_neg inside, quarters]
  · have binade : Binary.hiddenBit = Binary.hiddenBit ∧ Binary.leastExponent < exponent + 1 :=
      ⟨rfl, by omega⟩
    have quarters : 4 * significand + 2 = 2 * (4 * Binary.hiddenBit - 1) := by
      rw [hiddenBit_eq] at last ⊢
      omega
    rw [next, highEnd, lowEnd, interval, interval]
    dsimp only
    rw [if_pos binade, quarters, zpow_add_one₀ (by norm_num)]
    push_cast
    ring

/-! ### The word that a decimal reaches last -/

/-- Whether a decimal lies in the interval of a magnitude or above it. -/
def reaches (magnitude : Dyadic) (numeral : Numeral) : Bool :=
  let (scale, unit) := (Dyadic.mk 1 magnitude.exponent).quotient (-numeral.exponent)
  let point := 4 * numeral.coefficient * unit
  if magnitude.significand % 2 = 0 then magnitude.interval.1 * scale ≤ point
  else magnitude.interval.1 * scale < point

theorem reaches_iff (magnitude : Dyadic) (numeral : Numeral) :
    magnitude.reaches numeral = true ↔
      if magnitude.significand % 2 = 0 then magnitude.lowEnd ≤ numeral.value
      else magnitude.lowEnd < numeral.value := by
  obtain ⟨factor, positive, point, edges⟩ := magnitude.exists_scale numeral
  have low := edges magnitude.interval.1
  unfold reaches
  by_cases even : magnitude.significand % 2 = 0
  · simp only [if_pos even, decide_eq_true_eq]
    rw [← Nat.cast_le (α := ℚ), low, point, mul_le_mul_iff_left₀ positive]
    rfl
  · simp only [if_neg even, decide_eq_true_eq]
    rw [← Nat.cast_lt (α := ℚ), low, point, mul_lt_mul_iff_left₀ positive]
    rfl

variable {numeral : Numeral}

theorem roundsBack_ofWord (word : ℕ) (numeral : Numeral) :
    (ofWord word).roundsBack numeral = true ↔
      (ofWord word).reaches numeral = true ∧ (ofWord (word + 1)).reaches numeral = false := by
  rw [roundsBack_iff, ← Bool.not_eq_true, reaches_iff, reaches_iff, ofWord_significand_mod_two,
    ofWord_significand_mod_two, highEnd_ofWord]
  by_cases even : word % 2 = 0
  · rw [if_pos even, if_pos even, if_neg (by omega : ¬(word + 1) % 2 = 0), not_lt]
  · rw [if_neg even, if_neg even, if_pos (by omega : (word + 1) % 2 = 0), not_le]

theorem reaches_of_reaches_succ {word : ℕ} (next : (ofWord (word + 1)).reaches numeral = true) :
    (ofWord word).reaches numeral = true := by
  have wide := (ofWord word).lowEnd_lt_highEnd
  have atLeast : (ofWord word).highEnd ≤ numeral.value := by
    rw [reaches_iff, ← highEnd_ofWord] at next
    split at next
    · exact next
    · exact next.le
  rw [reaches_iff]
  split
  · exact wide.le.trans atLeast
  · exact wide.trans_le atLeast

end Dyadic

/-- The last number that passes a test, of those with so many bits from a base
on. -/
def lastPassing (passes : ℕ → Bool) : ℕ → ℕ → ℕ
  | 0, base => base
  | bits + 1, base =>
    if passes (base + Nat.pow 2 bits) then lastPassing passes bits (base + Nat.pow 2 bits)
    else lastPassing passes bits base

theorem lastPassing_eq {passes : ℕ → Bool} {last bits base : ℕ}
    (passing : ∀ number, passes number = true ↔ number ≤ last)
    (above : base ≤ last) (below : last < base + 2 ^ bits) :
    lastPassing passes bits base = last := by
  induction bits generalizing base with
  | zero =>
      rw [lastPassing]
      omega
  | succ bits inductionHypothesis =>
      rw [pow_succ] at below
      rw [lastPassing, Nat.pow_eq, if_congr (passing _) rfl rfl]
      split
      · next upper => exact inductionHypothesis upper (by omega)
      · next lower => exact inductionHypothesis above (by omega)

/-- The word of the magnitude that is nearest to a decimal. -/
def nearestWord (numeral : Numeral) : ℕ :=
  lastPassing (fun word => (Dyadic.ofWord word).reaches numeral) 63 0

/-- The double that is nearest to a decimal with a sign; none if that is no
finite number. -/
def nearest (negative : Bool) (numeral : Numeral) : Option Float :=
  let word := nearestWord numeral
  if word < infinityWord then some (Float.ofBits (UInt64.ofNat (word + signWord negative)))
  else none

theorem nearestWord_eq {word : ℕ} (below : word < 2 ^ 63) {numeral : Numeral}
    (inside : (Dyadic.ofWord word).roundsBack numeral = true) :
    nearestWord numeral = word := by
  obtain ⟨reached, notReached⟩ := (Dyadic.roundsBack_ofWord word numeral).mp inside
  have falling : ∀ {lower upper : ℕ}, lower ≤ upper →
      (Dyadic.ofWord upper).reaches numeral = true →
      (Dyadic.ofWord lower).reaches numeral = true := by
    intro lower upper atMost
    induction atMost with
    | refl => exact id
    | step _ inductionHypothesis =>
        exact fun next => inductionHypothesis (Dyadic.reaches_of_reaches_succ next)
  refine lastPassing_eq (fun number => ⟨fun passes => ?_, fun atMost => falling atMost reached⟩)
    (Nat.zero_le word) (by rwa [zero_add])
  by_contra above
  rw [falling (Nat.not_le.mp above) passes] at notReached
  cases notReached

/-- A decimal that rounds back to a double is read as this double. -/
theorem nearest_eq {value : Float} {negative : Bool} {magnitude : Dyadic}
    (isFinite : reading value = .finite negative magnitude) {numeral : Numeral}
    (inside : magnitude.roundsBack numeral = true) :
    nearest negative numeral = some value := by
  obtain ⟨word, below, rfl, bits⟩ := toBits_of_finite isFinite
  have short : infinityWord < 2 ^ 63 := by decide
  have found : nearestWord numeral = word := nearestWord_eq (below.trans short) inside
  unfold nearest
  simp only [found]
  rw [if_pos below, ← bits, UInt64.ofNat_toNat, Float.ofBits_toBits]

end Throughput.Decimal
