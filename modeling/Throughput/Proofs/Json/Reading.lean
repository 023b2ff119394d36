import Throughput.Proofs.Json.Datum

/-!
Contract: the text of a value is read as that value.

Owns:
- `Datum.readQuoted_escaped`, every text between quotation marks is read back;
- `Datum.readSequence_joined`, a sequence of items is read back if each of them
  is;
- `Json.read_line`, the line of a value holds its data and nothing else.

What follows a value matters for numbers alone: `Stops` says that no number goes
on there.
-/

namespace Throughput

open Decimal

namespace Datum

variable {α β : Type}

theorem skipBlanks_cons {character : Char} (notBlank : isBlank character = false)
    (rest : List Char) : skipBlanks (character :: rest) = character :: rest := by
  simp [skipBlanks, notBlank]

/-! ### Texts -/

theorem hexDigit_digitChar : ∀ digit < 16, hexDigit (Nat.digitChar digit) = some digit := by
  decide

theorem readCoded_low {code : ℕ} (low : code < 32) (rest : List Char) :
    readCoded ('0' :: '0' :: Nat.digitChar (code / 16) :: Nat.digitChar (code % 16) :: rest) =
      some (Char.ofNat code, rest) := by
  have third := hexDigit_digitChar (code / 16) (by omega)
  have fourth := hexDigit_digitChar (code % 16) (by omega)
  have whole : code / 16 * 16 + code % 16 = code := by omega
  have zero : hexDigit '0' = some 0 := rfl
  have notSurrogate : code < 0xd800 := by omega
  simp [readCoded, readCode, zero, third, fourth, whole, notSurrogate]

theorem escaped_ne_nil (character : Char) : Json.escaped character ≠ [] := by
  unfold Json.escaped
  split_ifs <;> exact List.cons_ne_nil _ _

/-- No escaped character looks like the closing quotation mark. -/
theorem head_escaped (character : Char) : (Json.escaped character).head? ≠ some '"' := by
  have backslash : some '\\' ≠ some '"' := by decide
  unfold Json.escaped
  split_ifs with quote
  all_goals first
    | exact backslash
    | exact fun same => quote (Option.some.inj same)

theorem readCharacter_escaped (character : Char) (rest : List Char) :
    readCharacter (Json.escaped character ++ rest) = some (character, rest) := by
  unfold Json.escaped
  split_ifs with quote backslash backspace formFeed newline carriageReturn tab low
  · subst quote; rfl
  · subst backslash; rfl
  · subst backspace; rfl
  · subst formFeed; rfl
  · subst newline; rfl
  · subst carriageReturn; rfl
  · subst tab; rfl
  · have coded := readCoded_low low rest
    rw [Char.ofNat_toNat] at coded
    exact coded
  · simp [readCharacter, quote, backslash, low]

theorem readQuoted_of_head {fuel : ℕ} {input : List Char} (noQuote : input.head? ≠ some '"') :
    readQuoted (fuel + 1) input = do
      let (character, input) ← readCharacter input
      let (characters, rest) ← readQuoted fuel input
      return (character :: characters, rest) := by
  rw [readQuoted]
  rintro rest rfl
  exact noQuote rfl

/-- A text is read back from between its quotation marks. -/
theorem readQuoted_escaped {characters : List Char} {fuel : ℕ}
    (enough : (characters.flatMap Json.escaped).length < fuel) (rest : List Char) :
    readQuoted fuel (characters.flatMap Json.escaped ++ '"' :: rest) = some (characters, rest) := by
  induction characters generalizing fuel with
  | nil =>
      obtain ⟨fuel, rfl⟩ := Nat.exists_eq_add_one.mpr (Nat.zero_lt_of_lt enough)
      rfl
  | cons character characters inductionHypothesis =>
      obtain ⟨fuel, rfl⟩ := Nat.exists_eq_add_one.mpr (Nat.zero_lt_of_lt enough)
      have positive := List.length_pos_iff.mpr (escaped_ne_nil character)
      rw [List.flatMap_cons, List.length_append] at enough
      rw [List.flatMap_cons, List.append_assoc, readQuoted_of_head, readCharacter_escaped]
      · simp only [Option.bind_eq_bind, Option.bind_some]
        rw [inductionHypothesis (by omega)]
        rfl
      · rw [List.head?_append_of_ne_nil _ (escaped_ne_nil character)]
        exact head_escaped character

/-! ### Sequences -/

/-- Texts with commas between them. -/
def joined (write : β → List Char) : List β → List Char
  | [] => []
  | [item] => write item
  | item :: next :: rest => write item ++ ',' :: joined write (next :: rest)

theorem length_le_joined (write : β → List Char) (items : List β) :
    items.length ≤ (joined write items).length + 1 := by
  induction items with
  | nil => exact Nat.zero_le _
  | cons item items inductionHypothesis =>
      cases items with
      | nil => exact Nat.le_add_left 1 _
      | cons next rest =>
          simp only [joined, List.length_append, List.length_cons] at inductionHypothesis ⊢
          omega

/-- An item is read back from any text below a length that goes on after it
with no number. -/
def ReadsBack (readItem : List Char → Option (α × List Char)) (write : β → List Char)
    (value : β → α) (limit : ℕ) (item : β) : Prop :=
  ∀ rest, Stops rest → (write item ++ rest).length < limit →
    readItem (write item ++ rest) = some (value item, rest)

theorem stops_of_mark {mark : Char}
    (isMark : mark.isDigit = false ∧ mark ≠ '.' ∧ mark ≠ 'e' ∧ mark ≠ 'E') (rest : List Char) :
    Stops (mark :: rest) := by
  rintro character ⟨⟩
  exact isMark

variable {readItem : List Char → Option (α × List Char)} {close : Char}

theorem readSeparated_last (isClose : close = ']' ∨ close = '}') {input rest : List Char} {item : α}
    (first : readItem input = some (item, close :: rest)) (fuel : ℕ) :
    readSeparated readItem close (fuel + 1) input = some ([item], rest) := by
  rw [readSeparated, first]
  rcases isClose with rfl | rfl <;> rfl

theorem readSeparated_more {input input' rest : List Char} {item : α} {items : List α} {fuel : ℕ}
    (first : readItem input = some (item, ',' :: input'))
    (others : readSeparated readItem close fuel input' = some (items, rest)) :
    readSeparated readItem close (fuel + 1) input = some (item :: items, rest) := by
  rw [readSeparated, first]
  change (readSeparated readItem close fuel input').bind
    (fun result => some (item :: result.1, result.2)) = _
  rw [others]
  rfl

variable {write : β → List Char} {value : β → α} {limit : ℕ} {items : List β} {rest : List Char}

theorem readSeparated_joined (isClose : close = ']' ∨ close = '}') (nonempty : items ≠ [])
    (readsBack : ∀ item ∈ items, ReadsBack readItem write value limit item)
    {fuel : ℕ} (enough : items.length ≤ fuel)
    (short : (joined write items ++ close :: rest).length < limit) :
    readSeparated readItem close fuel (joined write items ++ close :: rest) =
      some (items.map value, rest) := by
  induction items generalizing fuel with
  | nil => exact absurd rfl nonempty
  | cons item items inductionHypothesis =>
      obtain ⟨fuel, rfl⟩ := Nat.exists_eq_add_one.mpr (Nat.zero_lt_of_lt enough)
      have readsFirst := readsBack item List.mem_cons_self
      cases items with
      | nil =>
          have stops : Stops (close :: rest) := by
            rcases isClose with rfl | rfl <;> exact stops_of_mark (by decide) rest
          exact readSeparated_last isClose (readsFirst _ stops short) fuel
      | cons next items =>
          rw [joined, List.append_assoc, List.cons_append] at short ⊢
          refine readSeparated_more
            (readsFirst _ (stops_of_mark (by decide) _) short) ?_
          refine inductionHypothesis (List.cons_ne_nil _ _)
            (fun item isMember => readsBack item (List.mem_cons_of_mem _ isMember))
            (Nat.le_of_succ_le_succ enough) ?_
          simp only [List.length_append, List.length_cons] at short ⊢
          omega

/-- A text that starts like a value: not with a blank, and not with the end of
a sequence. -/
def StartsValue (text : List Char) : Prop :=
  ∃ character rest, text = character :: rest ∧
    isBlank character = false ∧ character ≠ ']' ∧ character ≠ '}'

theorem startsValue_of_mark {mark : Char}
    (isMark : isBlank mark = false ∧ mark ≠ ']' ∧ mark ≠ '}') (rest : List Char) :
    StartsValue (mark :: rest) :=
  ⟨mark, rest, rfl, isMark⟩

/-- A sequence is read back if its items are. -/
theorem readSequence_joined (isClose : close = ']' ∨ close = '}')
    (startsValue : ∀ item ∈ items, StartsValue (write item))
    (readsBack : ∀ item ∈ items, ReadsBack readItem write value limit item)
    (short : (joined write items ++ close :: rest).length < limit) :
    readSequence readItem close limit (joined write items ++ close :: rest) =
      some (items.map value, rest) := by
  have mark : isBlank close = false := by rcases isClose with rfl | rfl <;> rfl
  cases items with
  | nil =>
      rw [joined, List.nil_append, readSequence, skipBlanks_cons mark]
      simp only [if_true]
      rfl
  | cons item items =>
      have start : StartsValue (joined write (item :: items) ++ close :: rest) := by
        obtain ⟨character, text, isText, proper⟩ := startsValue item List.mem_cons_self
        cases items <;> exact ⟨character, _, by rw [joined, isText]; rfl, proper⟩
      have counted := length_le_joined write (item :: items)
      have enough : (item :: items).length ≤ limit := by
        rw [List.length_append] at short
        omega
      have separated :=
        readSeparated_joined isClose (List.cons_ne_nil item items) readsBack enough short
      obtain ⟨character, text, isText, notBlank, notBracket, notBrace⟩ := start
      have notClose : character ≠ close := by rcases isClose with rfl | rfl <;> assumption
      rw [isText] at separated ⊢
      rw [readSequence, skipBlanks_cons notBlank]
      simp only [if_neg notClose]
      exact separated

/-! ### Values -/

/-- The text of a member of a record. -/
def memberText (member : String × Json) : List Char :=
  Json.quoted member.1 ++ ':' :: member.2.chars

/-- What is read from it. -/
def memberDatum (member : String × Json) : String × Datum :=
  (member.1, member.2.datum)

theorem itemChars_eq_joined (items : List Json) :
    Json.itemChars items = joined Json.chars items := by
  induction items with
  | nil => rfl
  | cons item items inductionHypothesis =>
      cases items with
      | nil => rfl
      | cons next rest => rw [Json.itemChars, joined, inductionHypothesis]

theorem memberChars_eq_joined (members : List (String × Json)) :
    Json.memberChars members = joined memberText members := by
  induction members with
  | nil => rfl
  | cons member members inductionHypothesis =>
      cases members with
      | nil => rfl
      | cons next rest => rw [Json.memberChars, joined, inductionHypothesis, memberText]

theorem itemData_eq_map (items : List Json) : Json.itemData items = items.map Json.datum := by
  induction items with
  | nil => rfl
  | cons item items inductionHypothesis => rw [Json.itemData, inductionHypothesis]; rfl

theorem memberData_eq_map (members : List (String × Json)) :
    Json.memberData members = members.map memberDatum := by
  induction members with
  | nil => rfl
  | cons member members inductionHypothesis => rw [Json.memberData, inductionHypothesis]; rfl

theorem readQuoted_quoted {text : String} {fuel : ℕ} {rest : List Char}
    (enough : (Json.quoted text ++ rest).length ≤ fuel) :
    readQuoted fuel (text.toList.flatMap Json.escaped ++ '"' :: rest) =
      some (text.toList, rest) := by
  refine readQuoted_escaped ?_ rest
  simp only [Json.quoted, List.length_append, List.length_cons] at enough
  omega

theorem readMember_memberText {readItem : List Char → Option (Datum × List Char)} {limit : ℕ}
    {member : String × Json}
    (readsBack : ReadsBack readItem Json.chars Json.datum limit member.2) :
    ReadsBack (readMember readItem limit) memberText memberDatum limit member := by
  intro rest stops short
  rw [memberText, List.append_assoc] at short
  have name := readQuoted_quoted short.le
  have isValue : readItem (member.2.chars ++ rest) = some (member.2.datum, rest) := by
    refine readsBack rest stops ?_
    simp only [List.length_append, List.length_cons] at short ⊢
    omega
  have colon : isBlank ':' = false := rfl
  have shape : memberText member ++ rest =
      '"' :: (member.1.toList.flatMap Json.escaped ++ '"' :: ':' :: (member.2.chars ++ rest)) := by
    simp [memberText, Json.quoted]
  rw [shape, readMember, skipBlanks_cons rfl]
  simp only
  rw [← List.cons_append, name]
  simp only [Option.bind_eq_bind, Option.bind_some, List.cons_append, skipBlanks_cons colon]
  rw [isValue, String.ofList_toList]
  rfl

/-- A text that starts like a number. -/
def StartsNumber (text : List Char) : Prop :=
  ∃ character rest, text = character :: rest ∧ (character.isDigit = true ∨ character = '-')

theorem StartsNumber.append {text : List Char} (starts : StartsNumber text) (rest : List Char) :
    StartsNumber (text ++ rest) := by
  obtain ⟨character, text, rfl, isStart⟩ := starts
  exact ⟨character, text ++ rest, rfl, isStart⟩

theorem startsNumber_digits (value : ℕ) : StartsNumber (digits value) := by
  obtain ⟨character, rest, isDigits⟩ := List.exists_cons_of_ne_nil (digits_ne_nil value)
  have isFirst : character ∈ digits value := by
    rw [isDigits]
    exact List.mem_cons_self
  exact ⟨character, rest, isDigits, .inl (isDigit_of_mem_digits isFirst)⟩

theorem startsNumber_write (format : NumberFormat) {value : Float} {negative : Bool}
    {magnitude : Decimal.Dyadic} (isFinite : reading value = .finite negative magnitude) :
    StartsNumber (format.write value).toList := by
  have canonical := shortest_exponent_of_coefficient format.tie (significand_lt_of_reading isFinite)
  obtain ⟨character, rest, layout, isDigit⟩ := head_layout format canonical
  rw [NumberFormat.write, isFinite, NumberFormat.writeBinary]
  simp only [String.toList_ofList, layout]
  cases negative with
  | true => exact ⟨'-', _, rfl, .inr rfl⟩
  | false => exact ⟨character, _, rfl, .inl isDigit⟩

/-- A text that starts like a number starts with no other mark. -/
theorem StartsNumber.ne_mark {character : Char}
    (isStart : character.isDigit = true ∨ character = '-') {mark : Char}
    (noDigit : mark.isDigit = false) (noSign : mark ≠ '-') : character ≠ mark := by
  rintro rfl
  rcases isStart with isDigit | isSign
  · exact absurd isDigit (Bool.eq_false_iff.mp noDigit)
  · exact noSign isSign

theorem StartsNumber.startsValue {text : List Char} (starts : StartsNumber text) :
    StartsValue text := by
  obtain ⟨character, rest, rfl, isStart⟩ := starts
  refine ⟨character, rest, rfl, ?_, ne_mark isStart rfl (by decide), ne_mark isStart rfl (by decide)⟩
  simp [isBlank, ne_mark isStart]

theorem readValue_of_startsNumber {input : List Char} (starts : StartsNumber input) (fuel : ℕ) :
    readValue (fuel + 1) input = do
      let (literal, rest) ← readNumber input
      let datum ← ofLiteral literal
      return (datum, rest) := by
  obtain ⟨character, rest, rfl, isStart⟩ := starts
  have noMark : ∀ mark, mark.isDigit = false → mark ≠ '-' → character ≠ mark :=
    fun mark => StartsNumber.ne_mark isStart
  have notBlank : isBlank character = false := by
    simp [isBlank, noMark]
  rw [readValue, skipBlanks_cons notBlank]
  split
  · next mark => exact absurd (List.head_eq_of_cons_eq mark) (noMark _ rfl (by decide))
  · next mark => exact absurd (List.head_eq_of_cons_eq mark) (noMark _ rfl (by decide))
  · next mark => exact absurd (List.head_eq_of_cons_eq mark) (noMark _ rfl (by decide))
  · next mark => exact absurd (List.head_eq_of_cons_eq mark) (noMark _ rfl (by decide))
  · next mark => exact absurd (List.head_eq_of_cons_eq mark) (noMark _ rfl (by decide))
  · next mark => exact absurd (List.head_eq_of_cons_eq mark) (noMark _ rfl (by decide))
  · rfl

/-! ### The text of a value -/

theorem chars_text (text : String) (rest : List Char) :
    (Json.text text).chars ++ rest = '"' :: (text.toList.flatMap Json.escaped ++ '"' :: rest) := by
  simp [Json.chars, Json.quoted]

theorem chars_list (items : List Json) (rest : List Char) :
    (Json.list items).chars ++ rest = '[' :: (joined Json.chars items ++ ']' :: rest) := by
  simp [Json.chars, itemChars_eq_joined]

theorem chars_record (members : List (String × Json)) (rest : List Char) :
    (Json.record members).chars ++ rest = '{' :: (joined memberText members ++ '}' :: rest) := by
  simp [Json.chars, memberChars_eq_joined]

theorem startsValue_chars (json : Json) : StartsValue json.chars := by
  cases json with
  | count value => exact (startsNumber_digits value).startsValue
  | real value =>
      rw [Json.chars]
      by_cases isFinite : value.isFinite = true
      · obtain ⟨negative, magnitude, reading⟩ := reading_of_isFinite isFinite
        exact (startsNumber_write _ reading).startsValue
      · rw [write_json_of_not_isFinite isFinite]
        exact startsValue_of_mark (by decide) _
  | text value => exact startsValue_of_mark (by decide) _
  | list items => exact startsValue_of_mark (by decide) _
  | record members => exact startsValue_of_mark (by decide) _

theorem startsValue_memberText (member : String × Json) : StartsValue (memberText member) :=
  startsValue_of_mark (by decide) _

theorem readValue_real {fuel : ℕ} (value : Float) {rest : List Char} (stops : Stops rest) :
    readValue (fuel + 1) ((Json.real value).chars ++ rest) =
      some ((Json.real value).datum, rest) := by
  rw [Json.chars, Json.datum]
  by_cases isFinite : value.isFinite = true
  · obtain ⟨negative, magnitude, reading⟩ := reading_of_isFinite isFinite
    obtain ⟨literal, read, isNearest, notBare⟩ :=
      readNumber_write NumberFormat.json (.inr rfl) reading stops
    have datum : ofLiteral literal = some (.real value) := by
      rw [ofLiteral, notBare rfl, isNearest]
      rfl
    rw [readValue_of_startsNumber ((startsNumber_write _ reading).append rest), read,
      if_pos isFinite]
    simp only [Option.bind_eq_bind, Option.bind_some, datum]
    rfl
  · rw [write_json_of_not_isFinite isFinite, if_neg isFinite]
    rfl

/-- The text of a value is read back. -/
theorem readValue_chars (fuel : ℕ) (json : Json) :
    ReadsBack (readValue fuel) Json.chars Json.datum fuel json := by
  induction fuel generalizing json with
  | zero => exact fun rest _ short => absurd short (Nat.not_lt_zero _)
  | succ fuel inductionHypothesis =>
      intro rest stops short
      cases json with
      | count value =>
          have starts := (startsNumber_digits value).append rest
          rw [Json.chars, readValue_of_startsNumber starts, readNumber_digits value stops]
          rfl
      | real value => exact readValue_real value stops
      | text value =>
          rw [Json.chars] at short
          have text := readQuoted_quoted (Nat.le_of_lt_succ short)
          rw [chars_text, readValue, skipBlanks_cons rfl]
          simp only [text, Option.bind_eq_bind, Option.bind_some, String.ofList_toList]
          rfl
      | list items =>
          rw [chars_list] at short ⊢
          have sequence := readSequence_joined (.inl rfl)
            (fun item _ => startsValue_chars item) (fun item _ => inductionHypothesis item)
            (Nat.lt_of_succ_lt_succ short)
          rw [readValue, skipBlanks_cons rfl]
          simp only [sequence, Option.bind_eq_bind, Option.bind_some]
          rw [Json.datum, itemData_eq_map]
          rfl
      | record members =>
          rw [chars_record] at short ⊢
          have sequence := readSequence_joined (.inr rfl)
            (fun member _ => startsValue_memberText member)
            (fun member _ => readMember_memberText (inductionHypothesis member.2))
            (Nat.lt_of_succ_lt_succ short)
          rw [readValue, skipBlanks_cons rfl]
          simp only [sequence, Option.bind_eq_bind, Option.bind_some]
          rw [Json.datum, memberData_eq_map]
          rfl

end Datum

/-- The line of a value is read as its data. -/
theorem Json.read_line (json : Json) : Datum.read json.line = some json.datum := by
  have short : (json.chars ++ []).length < json.line.length + 1 := by
    rw [List.append_nil, Json.line, String.length_ofList]
    exact Nat.lt_succ_self _
  have read := Datum.readValue_chars _ json [] stops_nil short
  rw [List.append_nil] at read
  rw [Datum.read, Json.line, String.toList_ofList, ← Json.line, read]
  rfl

end Throughput
