import Throughput.Proofs.Decimal.Nearest
import Throughput.Proofs.Decimal.Reader
import Throughput.Proofs.Decimal.Shortest

/-!
Contract: every double is read back from its text.

Owns:
- `readNumber_write`, for the finite doubles in any format, whatever follows in
  the text;
- `readPlain`, the reader of the plain format with its words, and
  `readPlain_write`, that it undoes `NumberFormat.plain` on every double.
-/

namespace Throughput.Decimal

variable {value : Float} {negative : Bool} {magnitude : Dyadic}

theorem significand_lt_of_reading (isFinite : reading value = .finite negative magnitude) :
    magnitude.significand < 2 ^ 53 := by
  obtain ⟨word, -, rfl, -⟩ := toBits_of_finite isFinite
  exact Dyadic.ofWord_significand_lt word

theorem readNumber_of_head {text : List Char} (noSign : text.head? ≠ some '-') :
    readNumber text = readMagnitude false text := by
  unfold readNumber
  split
  · exact absurd rfl noSign
  · rfl

/-- A natural that is written in digits is read back as a bare count. -/
theorem readNumber_digits (count : ℕ) {rest : List Char} (stops : Stops rest) :
    readNumber (digits count ++ rest) = some (⟨false, ⟨count, 0⟩, true⟩, rest) := by
  refine (readNumber_of_head ?_).trans (readMagnitude_digits false count stops)
  rw [List.head?_append_of_ne_nil _ (digits_ne_nil count)]
  intro isSign
  exact absurd (isDigit_of_mem_digits (List.mem_of_mem_head? isSign)) (by decide)

/-- A finite double that is written in a format is read back, as no bare count
if the format always writes a point or an exponent. -/
theorem readNumber_write (format : NumberFormat)
    (isPlus : format.plusSign = "" ∨ format.plusSign = "+")
    (isFinite : reading value = .finite negative magnitude) {rest : List Char}
    (stops : Stops rest) :
    ∃ literal : Literal,
      readNumber ((format.write value).toList ++ rest) = some (literal, rest) ∧
      nearest literal.negative literal.numeral = some value ∧
      (format.keepsPoint = true → literal.isBare = false) := by
  have bounded := significand_lt_of_reading isFinite
  have canonical := shortest_exponent_of_coefficient format.tie bounded
  obtain ⟨literal, read, sign, sameValue, notBare⟩ :=
    readMagnitude_layout isPlus canonical negative stops
  have inside : magnitude.roundsBack literal.numeral = true := by
    rw [magnitude.roundsBack_congr sameValue]
    exact roundsBack_shortest format.tie bounded
  refine ⟨literal, ?_, sign ▸ nearest_eq isFinite inside, notBare⟩
  rw [NumberFormat.write, isFinite, NumberFormat.writeBinary]
  simp only [String.toList_ofList]
  cases negative with
  | true => exact read
  | false =>
      obtain ⟨character, text, layout, isDigit⟩ := head_layout format canonical
      refine (readNumber_of_head ?_).trans read
      rw [if_neg Bool.false_ne_true, layout]
      rintro ⟨⟩
      exact absurd isDigit (by decide)

/-- The characters of a finite double in a format. -/
theorem mem_write {format : NumberFormat} (isFinite : reading value = .finite negative magnitude)
    {character : Char} (isMember : character ∈ (format.write value).toList) :
    character.isDigit = true ∨ character = '.' ∨ character = 'e' ∨ character = '-' ∨
      character ∈ format.plusSign.toList := by
  have canonical := shortest_exponent_of_coefficient format.tie (significand_lt_of_reading isFinite)
  rw [NumberFormat.write, isFinite, NumberFormat.writeBinary] at isMember
  simp only [String.toList_ofList] at isMember
  cases negative with
  | false => exact mem_layout canonical isMember
  | true =>
      rcases List.mem_cons.mp isMember with isSign | inLayout
      · exact .inr (.inr (.inr (.inl isSign)))
      · exact mem_layout canonical inLayout

/-- JSON has no number for what is not finite. -/
theorem write_json_of_not_isFinite (notFinite : ¬value.isFinite = true) :
    NumberFormat.json.write value = "null" := by
  rw [NumberFormat.write]
  rcases reading_of_not_isFinite notFinite with isNothing | ⟨negative, isInfinite⟩
  · rw [isNothing]
    rfl
  · rw [isInfinite]
    cases negative <;> rfl

/-! ### The plain format -/

/-- The double that a text of the plain format stands for. -/
def readPlain (text : String) : Option Float :=
  match readNumber text.toList with
  | some (literal, []) => nearest literal.negative literal.numeral
  | _ =>
    if text = NumberFormat.plain.notANumber then some Float.nan
    else if text = NumberFormat.plain.infinity then some Float.inf
    else if text = NumberFormat.plain.negativeInfinity then some (-Float.inf)
    else none

theorem readPlain_write (value : Float) :
    readPlain (NumberFormat.plain.write value) = some value := by
  cases what : reading value with
  | notANumber =>
      rw [NumberFormat.write, what, eq_nan what]
      rfl
  | infinite negative =>
      rw [NumberFormat.write, what, eq_infinity what]
      cases negative <;> rfl
  | finite negative magnitude =>
      obtain ⟨literal, read, isNearest, -⟩ :=
        readNumber_write NumberFormat.plain (.inl rfl) what stops_nil
      rw [List.append_nil] at read
      rw [readPlain, read]
      exact isNearest

end Throughput.Decimal
