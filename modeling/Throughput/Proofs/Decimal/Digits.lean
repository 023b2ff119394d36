import Mathlib.Data.List.Basic
import Mathlib.Tactic.NormNum
import Throughput.Decimal.NumberFormat

/-!
Contract: the shape of a run of digits, with and without a point.

Owns:
- how many digits a natural has, and which natural a run of digits stands for;
- `isWhole`, a run of digits without a superfluous zero in front;
- `exists_pointed`, the two runs around the point of `NumberFormat.pointed`.
-/

namespace Throughput.Decimal

/-! ### Runs of digits -/

theorem digits_ne_nil (value : ℕ) : digits value ≠ [] :=
  Nat.toDigits_ne_nil

theorem length_digits_pos (value : ℕ) : 0 < (digits value).length :=
  Nat.length_toDigits_pos

theorem isDigit_of_mem_digits {value : ℕ} {character : Char} (isMember : character ∈ digits value) :
    character.isDigit = true :=
  Nat.isDigit_of_mem_toDigits (by decide) (by decide) isMember

theorem ofDigitChars_digits (value : ℕ) : Nat.ofDigitChars 10 (digits value) 0 = value :=
  Nat.ofDigitChars_ten_toDigits

theorem lt_pow_of_digits (value : ℕ) : value < 10 ^ (digits value).length :=
  (Nat.length_toDigits_le_iff (by decide) Nat.length_toDigits_pos).mp (Nat.le_refl _)

theorem pow_le_of_digits {value : ℕ} (positive : 0 < value) :
    10 ^ ((digits value).length - 1) ≤ value := by
  by_cases one : (digits value).length - 1 = 0
  · rw [one]
    exact positive
  · have notFewer : ¬(digits value).length ≤ (digits value).length - 1 := by omega
    unfold digits at notFewer ⊢
    rw [Nat.length_toDigits_le_iff (by decide) (Nat.pos_of_ne_zero (by simpa [digits] using one))]
      at notFewer
    exact Nat.not_lt.mp notFewer

/-- Zeros in front change nothing. -/
theorem ofDigitChars_padded (count : ℕ) (written : List Char) :
    Nat.ofDigitChars 10 (List.replicate count '0' ++ written) 0 =
      Nat.ofDigitChars 10 written 0 := by
  rw [Nat.ofDigitChars_append, Nat.ofDigitChars_replicate_zero, Nat.mul_zero]

/-- Zeros behind multiply. -/
theorem ofDigitChars_followed (count : ℕ) (written : List Char) :
    Nat.ofDigitChars 10 (written ++ List.replicate count '0') 0 =
      Nat.ofDigitChars 10 written 0 * 10 ^ count := by
  rw [Nat.ofDigitChars_append, Nat.ofDigitChars_replicate_zero, Nat.mul_comm]

/-- A run of digits without a superfluous zero in front. -/
def isWhole (text : List Char) : Bool :=
  !text.isEmpty && text.all Char.isDigit && (text.length = 1 || text.head? ≠ some '0')

theorem head_digits_ne_zero {value : ℕ} (positive : 0 < value) :
    (digits value).head? ≠ some '0' := by
  induction value using Nat.strongRecOn with
  | ind value inductionHypothesis =>
      unfold digits at inductionHypothesis ⊢
      by_cases single : value < 10
      · rw [Nat.toDigits_of_lt_base single, List.head?_cons, ne_eq, Option.some_inj,
          Nat.digitChar_eq_zero]
        exact positive.ne'
      · have front : 0 < value / 10 := Nat.div_pos (Nat.not_lt.mp single) (by decide)
        rw [Nat.toDigits_of_base_le (by decide) (Nat.not_lt.mp single),
          List.head?_append_of_ne_nil _ Nat.toDigits_ne_nil]
        exact inductionHypothesis _ (Nat.div_lt_self positive (by decide)) front

theorem isWhole_of_head {text : List Char} (nonempty : text ≠ [])
    (allDigits : ∀ character ∈ text, character.isDigit = true)
    (proper : text.length = 1 ∨ text.head? ≠ some '0') : isWhole text = true := by
  simp only [isWhole, Bool.and_eq_true, Bool.not_eq_true', List.isEmpty_eq_false_iff,
    List.all_eq_true, Bool.or_eq_true, decide_eq_true_eq]
  exact ⟨⟨nonempty, allDigits⟩, proper⟩

theorem isDigit_of_isWhole {text : List Char} (proper : isWhole text = true) :
    ∀ character ∈ text, character.isDigit = true := by
  simp only [isWhole, Bool.and_eq_true, List.all_eq_true] at proper
  exact proper.1.2

theorem isWhole_digits (value : ℕ) : isWhole (digits value) = true := by
  refine isWhole_of_head (digits_ne_nil value) (fun _ => isDigit_of_mem_digits) ?_
  rcases Nat.eq_zero_or_pos value with rfl | positive
  · exact .inl rfl
  · exact .inr (head_digits_ne_zero positive)

/-- The runs of digits before and after a point. -/
theorem exists_pointed (coefficient : ℕ) {places : ℕ} (positive : 0 < places) :
    ∃ whole fraction,
      NumberFormat.pointed (digits coefficient) places = whole ++ '.' :: fraction ∧
      isWhole whole = true ∧ (∀ character ∈ fraction, character.isDigit = true) ∧
      fraction.length = places ∧ Nat.ofDigitChars 10 (whole ++ fraction) 0 = coefficient := by
  unfold NumberFormat.pointed
  simp only [if_neg positive.ne']
  set zeros := places + 1 - (digits coefficient).length with isZeros
  set padded := List.replicate zeros '0' ++ digits coefficient with isPadded
  have length : padded.length = zeros + (digits coefficient).length := by
    rw [isPadded, List.length_append, List.length_replicate]
  have allDigits : ∀ character ∈ padded, character.isDigit = true := by
    intro character isMember
    rcases List.mem_append.mp isMember with isZero | isDigit
    · rw [List.eq_of_mem_replicate isZero]
      rfl
    · exact isDigit_of_mem_digits isDigit
  refine ⟨padded.take (padded.length - places), padded.drop (padded.length - places), rfl,
    isWhole_of_head ?_ (fun _ isMember => allDigits _ (List.mem_of_mem_take isMember)) ?_,
    fun _ isMember => allDigits _ (List.mem_of_mem_drop isMember), ?_, ?_⟩
  · rw [← List.length_pos_iff, List.length_take]
    omega
  · -- there are zeros in front only if they reach the point
    by_cases short : (digits coefficient).length ≤ places
    · left
      rw [List.length_take]
      omega
    · right
      have noZeros : zeros = 0 := by omega
      have nonzero : 0 < coefficient := by
        rcases Nat.eq_zero_or_pos coefficient with rfl | nonzero
        · exact absurd positive short
        · exact nonzero
      rw [List.head?_take, if_neg (by omega), isPadded, noZeros, List.replicate_zero,
        List.nil_append]
      exact head_digits_ne_zero nonzero
  · rw [List.length_drop]
    omega
  · rw [List.take_append_drop, isPadded, ofDigitChars_padded, ofDigitChars_digits]

end Throughput.Decimal
