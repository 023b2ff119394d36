import Throughput.Proofs.Decimal.Digits
import Throughput.Proofs.Decimal.Interval

/-!
Contract: numbers read back from a text.

Owns:
- `readNumber`, the number at the start of a text, and the text after it;
- `Literal`, what is read: a sign, a decimal, and whether the number is written
  as a bare count;
- `exists_layout`, the runs of digits that a layout is made of;
- `readNumber_layout`, a decimal that is written in a layout is read back with
  its value.

The grammar is that of JSON numbers: no superfluous zero in front, digits on
both sides of a point, an exponent with or without a sign.
-/

namespace Throughput.Decimal

/-! ### The reader -/

structure Literal where
  negative : Bool
  numeral : Numeral
  /-- Whether there is neither a point nor an exponent. -/
  isBare : Bool
deriving DecidableEq, Repr

def readDigits (text : List Char) : List Char × List Char :=
  (text.takeWhile Char.isDigit, text.dropWhile Char.isDigit)

def readFraction : List Char → Option (List Char × List Char)
  | '.' :: text =>
    let (fraction, rest) := readDigits text
    if fraction = [] then none else some (fraction, rest)
  | text => some ([], text)

/-- The sign of an exponent, which need not be there. -/
def readPowerSign : List Char → Bool × List Char
  | '-' :: text => (true, text)
  | '+' :: text => (false, text)
  | text => (false, text)

def readPower : List Char → Option (Option Int × List Char)
  | [] => some (none, [])
  | mark :: text =>
    if mark = 'e' ∨ mark = 'E' then
      let (negative, text) := readPowerSign text
      let (power, rest) := readDigits text
      let size : Int := Nat.ofDigitChars 10 power 0
      if power = [] then none else some (some (if negative then -size else size), rest)
    else some (none, mark :: text)

/-- A number without its sign. -/
def readMagnitude (negative : Bool) (text : List Char) : Option (Literal × List Char) := do
  let (whole, text) := readDigits text
  if isWhole whole then
    let (fraction, text) ← readFraction text
    let (power, rest) ← readPower text
    let numeral : Numeral :=
      ⟨Nat.ofDigitChars 10 (whole ++ fraction) 0, power.getD 0 - fraction.length⟩
    return (⟨negative, numeral, fraction.isEmpty && power.isNone⟩, rest)
  else none

def readNumber : List Char → Option (Literal × List Char)
  | '-' :: text => readMagnitude true text
  | text => readMagnitude false text

/-! ### Reading a written number -/

/-- A text that does not go on with a number. -/
def Stops (rest : List Char) : Prop :=
  ∀ character ∈ rest.head?,
    character.isDigit = false ∧ character ≠ '.' ∧ character ≠ 'e' ∧ character ≠ 'E'

theorem stops_nil : Stops [] :=
  fun _ isHead => nomatch isHead

theorem readDigits_append {written rest : List Char}
    (allDigits : ∀ character ∈ written, character.isDigit = true)
    (stops : ∀ character ∈ rest.head?, character.isDigit = false) :
    readDigits (written ++ rest) = (written, rest) := by
  have noMore : rest.takeWhile Char.isDigit = [] ∧ rest.dropWhile Char.isDigit = rest := by
    cases rest with
    | nil => exact ⟨rfl, rfl⟩
    | cons character rest => simp [stops character rfl]
  rw [readDigits, List.takeWhile_append_of_pos allDigits, List.dropWhile_append_of_pos allDigits,
    noMore.1, noMore.2, List.append_nil]

/-- A point and the digits after it; nothing if there are none. -/
def pointText (fraction : List Char) : List Char :=
  if fraction = [] then [] else '.' :: fraction

/-- An exponent with its mark. -/
def powerText (plusSign : String) : Option Int → List Char
  | none => []
  | some power =>
    'e' :: (if power < 0 then ['-'] else plusSign.toList) ++ digits power.natAbs

theorem readFraction_pointText {fraction rest : List Char}
    (allDigits : ∀ character ∈ fraction, character.isDigit = true)
    (stops : ∀ character ∈ rest.head?, character.isDigit = false ∧ character ≠ '.') :
    readFraction (pointText fraction ++ rest) = some (fraction, rest) := by
  unfold pointText
  split
  · next empty =>
      rw [List.nil_append, empty]
      unfold readFraction
      split
      · exact absurd rfl (stops '.' rfl).2
      · rfl
  · next nonempty =>
      rw [List.cons_append, readFraction,
        readDigits_append allDigits fun character isHead => (stops character isHead).1]
      simp only [if_neg nonempty]

theorem readPowerSign_digits (value : ℕ) (rest : List Char) :
    readPowerSign (digits value ++ rest) = (false, digits value ++ rest) := by
  have first : ∀ character ∈ (digits value ++ rest).head?, character.isDigit = true := by
    rw [List.head?_append_of_ne_nil _ (digits_ne_nil value)]
    exact fun character isHead => isDigit_of_mem_digits (List.mem_of_mem_head? isHead)
  unfold readPowerSign
  split
  · next sign => exact absurd (first '-' (by rw [sign]; rfl)) (by decide)
  · next sign => exact absurd (first '+' (by rw [sign]; rfl)) (by decide)
  · rfl

theorem readPower_powerText {plusSign : String} (isPlus : plusSign = "" ∨ plusSign = "+")
    (power : Option Int) {rest : List Char} (stops : Stops rest) :
    readPower (powerText plusSign power ++ rest) = some (power, rest) := by
  cases power with
  | none =>
      cases rest with
      | nil => rfl
      | cons mark rest =>
          obtain ⟨-, -, notSmall, notLarge⟩ := stops mark rfl
          rw [powerText, List.nil_append, readPower, if_neg (not_or.mpr ⟨notSmall, notLarge⟩)]
  | some power =>
      have signed : readPowerSign ((if power < 0 then ['-'] else plusSign.toList) ++
          (digits power.natAbs ++ rest)) = (decide (power < 0), digits power.natAbs ++ rest) := by
        by_cases below : power < 0
        · rw [if_pos below, decide_eq_true below]
          rfl
        · rw [if_neg below, decide_eq_false below]
          rcases isPlus with rfl | rfl
          · exact readPowerSign_digits power.natAbs rest
          · rfl
      have run : readDigits (digits power.natAbs ++ rest) = (digits power.natAbs, rest) :=
        readDigits_append (fun _ => isDigit_of_mem_digits)
          fun character isHead => (stops character isHead).1
      have size : (if power < 0 then -(power.natAbs : ℤ) else power.natAbs) = power := by
        split <;> omega
      rw [powerText, List.cons_append, List.cons_append, List.append_assoc, readPower,
        if_pos (.inl rfl), signed]
      simp only [run, digits_ne_nil, ofDigitChars_digits, if_false, decide_eq_true_eq, size]

/-- A number is read from its runs of digits. -/
theorem readMagnitude_parts {plusSign : String} (isPlus : plusSign = "" ∨ plusSign = "+")
    (negative : Bool) {whole fraction rest : List Char} (proper : isWhole whole = true)
    (allDigits : ∀ character ∈ fraction, character.isDigit = true) (power : Option Int)
    (stops : Stops rest) :
    readMagnitude negative (whole ++ (pointText fraction ++ (powerText plusSign power ++ rest))) =
      some
        (⟨negative,
          ⟨Nat.ofDigitChars 10 (whole ++ fraction) 0, power.getD 0 - fraction.length⟩,
          fraction.isEmpty && power.isNone⟩, rest) := by
  have afterFraction : ∀ character ∈ (powerText plusSign power ++ rest).head?,
      character.isDigit = false ∧ character ≠ '.' := by
    cases power with
    | none => exact fun character isHead =>
        ⟨(stops character isHead).1, (stops character isHead).2.1⟩
    | some power =>
        rintro character ⟨⟩
        decide
  have afterWhole : ∀ character ∈ (pointText fraction ++ (powerText plusSign power ++ rest)).head?,
      character.isDigit = false := by
    unfold pointText
    split
    · exact fun character isHead => (afterFraction character isHead).1
    · rintro character ⟨⟩
      decide
  rw [readMagnitude, readDigits_append (isDigit_of_isWhole proper) afterWhole]
  simp only [proper, if_true, readFraction_pointText allDigits afterFraction,
    readPower_powerText isPlus power stops, Option.bind_eq_bind, Option.bind_some]
  rfl

/-! ### The parts of a layout -/

theorem pointText_of_length {fraction : List Char} {places : ℕ} (positive : 0 < places)
    (length : fraction.length = places) : pointText fraction = '.' :: fraction := by
  rw [pointText, if_neg (List.length_pos_iff.mp (by omega))]

/-- What the runs of digits of a number stand for. -/
def partsValue (whole fraction : List Char) (power : Option Int) : ℚ :=
  Numeral.value ⟨Nat.ofDigitChars 10 (whole ++ fraction) 0, power.getD 0 - fraction.length⟩

/-- The runs of digits that a text of a decimal is made of. -/
structure Parts (text : List Char) (plusSign : String) (value : ℚ) where
  whole : List Char
  fraction : List Char
  power : Option Int
  text_eq : text = whole ++ (pointText fraction ++ powerText plusSign power)
  isWhole : Decimal.isWhole whole = true
  allDigits : ∀ character ∈ fraction, character.isDigit = true
  value_eq : partsValue whole fraction power = value

variable {format : NumberFormat} {numeral : Numeral}

theorem exists_positional_of_neg (format : NumberFormat) (below : numeral.exponent < 0) :
    ∃ parts : Parts (format.positional numeral) format.plusSign numeral.value,
      parts.fraction ≠ [] := by
  have positive : 0 < (-numeral.exponent).toNat := by omega
  obtain ⟨whole, fraction, text, proper, allDigits, length, coefficient⟩ :=
    exists_pointed numeral.coefficient positive
  have nonempty : fraction ≠ [] := List.length_pos_iff.mp (by omega)
  refine ⟨⟨whole, fraction, none, ?_, proper, allDigits, ?_⟩, nonempty⟩
  · simp only [NumberFormat.positional, if_pos below, text, pointText_of_length positive length,
      powerText, List.append_nil]
  · rw [partsValue, coefficient, length, Option.getD_none,
      show 0 - ((-numeral.exponent).toNat : ℤ) = numeral.exponent by omega]

/-- Zeros at the end do not bring one to the front. -/
theorem isWhole_followed {value zeros : ℕ} (canonical : value = 0 → zeros = 0) :
    isWhole (digits value ++ List.replicate zeros '0') = true := by
  rcases Nat.eq_zero_or_pos value with rfl | positive
  · rw [canonical rfl]
    rfl
  · refine isWhole_of_head (List.append_ne_nil_of_left_ne_nil (digits_ne_nil value) _) ?_ (.inr ?_)
    · intro character isMember
      rcases List.mem_append.mp isMember with isDigit | isZero
      · exact isDigit_of_mem_digits isDigit
      · rw [List.eq_of_mem_replicate isZero]
        rfl
    · rw [List.head?_append_of_ne_nil _ (digits_ne_nil value)]
      exact head_digits_ne_zero positive

theorem exists_positional_of_nonneg (format : NumberFormat)
    (canonical : numeral.coefficient = 0 → numeral.exponent = 0)
    (notBelow : ¬numeral.exponent < 0) :
    ∃ parts : Parts (format.positional numeral) format.plusSign numeral.value,
      format.keepsPoint = true → parts.fraction ≠ [] := by
  have value : ((numeral.coefficient * 10 ^ numeral.exponent.toNat : ℕ) : ℚ) = numeral.value := by
    rw [Numeral.value, Nat.cast_mul, Nat.cast_pow, Nat.cast_ofNat, ← zpow_natCast,
      Int.toNat_of_nonneg (by omega)]
  have proper : isWhole (digits numeral.coefficient ++
      List.replicate numeral.exponent.toNat '0') = true :=
    isWhole_followed fun zero => by rw [canonical zero, Int.toNat_zero]
  cases point : format.keepsPoint with
  | false =>
      refine ⟨⟨_, [], none, ?_, proper, List.forall_mem_nil _, ?_⟩,
        fun keeps => absurd keeps Bool.false_ne_true⟩
      · simp only [NumberFormat.positional, if_neg notBelow, point, if_neg Bool.false_ne_true]
        rfl
      · rw [partsValue, List.append_nil, ofDigitChars_followed, ofDigitChars_digits, ← value]
        simp [Numeral.value]
  | true =>
      refine ⟨⟨_, ['0'], none, ?_, proper, List.forall_mem_singleton.mpr rfl, ?_⟩,
        fun _ => List.cons_ne_nil _ _⟩
      · simp only [NumberFormat.positional, if_neg notBelow, point, if_true]
        rfl
      · rw [partsValue, show ['0'] = List.replicate 1 '0' from rfl, List.append_assoc,
          ← List.replicate_add, ofDigitChars_followed, ofDigitChars_digits, ← value, pow_succ]
        simp [Numeral.value]
        ring

theorem exists_scientific (format : NumberFormat) (numeral : Numeral) :
    ∃ parts : Parts (format.scientific numeral) format.plusSign numeral.value,
      parts.power ≠ none := by
  by_cases single : (digits numeral.coefficient).length ≤ 1
  · refine ⟨⟨digits numeral.coefficient, [], some numeral.leadingExponent, ?_,
      isWhole_digits _, List.forall_mem_nil _, ?_⟩, Option.some_ne_none _⟩
    · simp only [NumberFormat.scientific, if_pos single, pointText, if_true, powerText,
        List.nil_append, List.append_assoc, List.cons_append]
    · have one := length_digits_pos numeral.coefficient
      rw [partsValue, List.append_nil, ofDigitChars_digits, Option.getD_some,
        Numeral.leadingExponent, Numeral.digitCount,
        show (digits numeral.coefficient).length = 1 by omega]
      simp
  · have positive : 0 < (digits numeral.coefficient).length - 1 := by omega
    obtain ⟨whole, fraction, text, proper, allDigits, length, coefficient⟩ :=
      exists_pointed numeral.coefficient positive
    refine ⟨⟨whole, fraction, some numeral.leadingExponent, ?_, proper, allDigits, ?_⟩,
      Option.some_ne_none _⟩
    · simp only [NumberFormat.scientific, if_neg single, text,
        pointText_of_length positive length, powerText, List.append_assoc, List.cons_append]
    · rw [partsValue, coefficient, length, Option.getD_some, Numeral.leadingExponent,
        Numeral.digitCount,
        show numeral.exponent + (digits numeral.coefficient).length - 1 -
          (((digits numeral.coefficient).length - 1 : ℕ) : ℤ) = numeral.exponent by omega]

/-- A layout is made of runs of digits. Zero has to be written without an
exponent. -/
theorem exists_layout (format : NumberFormat)
    (canonical : numeral.coefficient = 0 → numeral.exponent = 0) :
    ∃ parts : Parts (format.layout numeral) format.plusSign numeral.value,
      format.keepsPoint = true → parts.fraction ≠ [] ∨ parts.power ≠ none := by
  by_cases positional : numeral.coefficient = 0 ∨ format.isPositional numeral.leadingExponent
  · rw [NumberFormat.layout, if_pos positional]
    by_cases below : numeral.exponent < 0
    · obtain ⟨parts, pointed⟩ := exists_positional_of_neg format below
      exact ⟨parts, fun _ => .inl pointed⟩
    · obtain ⟨parts, pointed⟩ := exists_positional_of_nonneg format canonical below
      exact ⟨parts, fun keeps => .inl (pointed keeps)⟩
  · rw [NumberFormat.layout, if_neg positional]
    obtain ⟨parts, marked⟩ := exists_scientific format numeral
    exact ⟨parts, fun _ => .inr marked⟩

theorem head_layout (format : NumberFormat)
    (canonical : numeral.coefficient = 0 → numeral.exponent = 0) :
    ∃ character rest, format.layout numeral = character :: rest ∧ character.isDigit = true := by
  obtain ⟨⟨whole, fraction, power, text, proper, -, -⟩, -⟩ :=
    exists_layout format canonical
  cases whole with
  | nil => cases proper
  | cons character whole =>
      exact ⟨character, _, text, isDigit_of_isWhole proper character List.mem_cons_self⟩

/-- The characters of a layout, the sign of an exponent among them. -/
theorem mem_layout (canonical : numeral.coefficient = 0 → numeral.exponent = 0) {character : Char}
    (isMember : character ∈ format.layout numeral) :
    character.isDigit = true ∨ character = '.' ∨ character = 'e' ∨ character = '-' ∨
      character ∈ format.plusSign.toList := by
  obtain ⟨⟨whole, fraction, power, text, proper, allDigits, -⟩, -⟩ :=
    exists_layout format canonical
  rw [text, List.mem_append, List.mem_append] at isMember
  rcases isMember with inWhole | inFraction | inPower
  · exact .inl (isDigit_of_isWhole proper character inWhole)
  · unfold pointText at inFraction
    split at inFraction
    · cases inFraction
    · rcases List.mem_cons.mp inFraction with isPoint | isDigit
      · exact .inr (.inl isPoint)
      · exact .inl (allDigits character isDigit)
  · cases power with
    | none => cases inPower
    | some power =>
        rw [powerText, List.mem_append, List.mem_cons] at inPower
        rcases inPower with (isMark | inSign) | isDigit
        · exact .inr (.inr (.inl isMark))
        · split at inSign
          · exact .inr (.inr (.inr (.inl (List.mem_singleton.mp inSign))))
          · exact .inr (.inr (.inr (.inr inSign)))
        · exact .inl (isDigit_of_mem_digits isDigit)

/-- A decimal that is written in a layout is read back with its value, as no
bare count if the format always writes a point or an exponent. -/
theorem readMagnitude_layout (isPlus : format.plusSign = "" ∨ format.plusSign = "+")
    (canonical : numeral.coefficient = 0 → numeral.exponent = 0) (negative : Bool)
    {rest : List Char} (stops : Stops rest) :
    ∃ literal : Literal,
      readMagnitude negative (format.layout numeral ++ rest) = some (literal, rest) ∧
      literal.negative = negative ∧ literal.numeral.value = numeral.value ∧
      (format.keepsPoint = true → literal.isBare = false) := by
  obtain ⟨⟨whole, fraction, power, text, proper, allDigits, value⟩, marked⟩ :=
    exists_layout format canonical
  refine ⟨⟨negative,
    ⟨Nat.ofDigitChars 10 (whole ++ fraction) 0, power.getD 0 - fraction.length⟩,
    fraction.isEmpty && power.isNone⟩, ?_, rfl, value, fun keeps => ?_⟩
  · rw [text, List.append_assoc, List.append_assoc]
    exact readMagnitude_parts isPlus negative proper allDigits power stops
  · rw [Bool.and_eq_false_iff, List.isEmpty_eq_false_iff, Option.isNone_eq_false_iff,
      Option.isSome_iff_ne_none]
    exact marked keeps

/-- A natural that is written in digits is read back as a bare count. -/
theorem readMagnitude_digits (negative : Bool) (value : ℕ) {rest : List Char}
    (stops : Stops rest) :
    readMagnitude negative (digits value ++ rest) =
      some (⟨negative, ⟨value, 0⟩, true⟩, rest) := by
  have read := readMagnitude_parts (.inl rfl) negative (isWhole_digits value)
    (List.forall_mem_nil _) none stops
  rwa [List.append_nil, ofDigitChars_digits] at read

end Throughput.Decimal
