import Throughput.Json
import Throughput.Proofs.Decimal.RoundTrip

/-!
Contract: JSON texts read as data.

Owns:
- `Datum`, the values of a JSON text, with counts told apart from measured
  numbers by the way they are written;
- `Datum.read`, the reader of a whole text, and its parts;
- `Json.datum`, the value that the text of a `Json` stands for: a number that
  JSON cannot write is `null` there.

The reader takes the whole grammar: blanks between tokens, every escape in a
text, pairs of surrogates included. Its loops count down from the length of the
text, which they never use up.
-/

namespace Throughput

open Decimal

/-- A value of a JSON text. -/
inductive Datum where
  | null
  | truth (value : Bool)
  | count (value : Nat)
  | real (value : Float)
  | text (value : String)
  | list (items : List Datum)
  | record (members : List (String × Datum))

namespace Datum

variable {α : Type}

def isBlank (character : Char) : Bool :=
  character = ' ' || character = '\t' || character = '\n' || character = '\r'

def skipBlanks (input : List Char) : List Char :=
  input.dropWhile isBlank

/-! ### Texts -/

def hexDigit (character : Char) : Option Nat :=
  if character.isDigit then some (character.toNat - '0'.toNat)
  else if 'a' ≤ character ∧ character ≤ 'f' then some (character.toNat - 'a'.toNat + 10)
  else if 'A' ≤ character ∧ character ≤ 'F' then some (character.toNat - 'A'.toNat + 10)
  else none

/-- A code of four hexadecimal digits. -/
def readCode : List Char → Option (Nat × List Char)
  | first :: second :: third :: fourth :: rest => do
    let first ← hexDigit first
    let second ← hexDigit second
    let third ← hexDigit third
    let fourth ← hexDigit fourth
    return (((first * 16 + second) * 16 + third) * 16 + fourth, rest)
  | _ => none

/-- The character with a code. A character that takes two codes is a pair of
surrogates. -/
def readCoded (input : List Char) : Option (Char × List Char) := do
  let (high, rest) ← readCode input
  if high < 0xd800 ∨ 0xdfff < high then return (Char.ofNat high, rest)
  else if high < 0xdc00 then
    match rest with
    | '\\' :: 'u' :: input =>
      let (low, rest) ← readCode input
      if 0xdc00 ≤ low ∧ low ≤ 0xdfff then
        return (Char.ofNat (0x10000 + (high - 0xd800) * 0x400 + (low - 0xdc00)), rest)
      else none
    | _ => none
  else none

/-- What stands after a backslash. -/
def readEscape : List Char → Option (Char × List Char)
  | '"' :: rest => some ('"', rest)
  | '\\' :: rest => some ('\\', rest)
  | '/' :: rest => some ('/', rest)
  | 'b' :: rest => some ('\x08', rest)
  | 'f' :: rest => some ('\x0c', rest)
  | 'n' :: rest => some ('\n', rest)
  | 'r' :: rest => some ('\r', rest)
  | 't' :: rest => some ('\t', rest)
  | 'u' :: input => readCoded input
  | _ => none

/-- One character of a text between quotation marks. -/
def readCharacter : List Char → Option (Char × List Char)
  | [] => none
  | character :: input =>
    if character = '\\' then readEscape input
    else if character = '"' ∨ character.toNat < 32 then none
    else some (character, input)

/-- The characters up to the closing quotation mark. -/
def readQuoted : Nat → List Char → Option (List Char × List Char)
  | 0, _ => none
  | _ + 1, '"' :: rest => some ([], rest)
  | fuel + 1, input => do
    let (character, input) ← readCharacter input
    let (characters, rest) ← readQuoted fuel input
    return (character :: characters, rest)

/-! ### Sequences and records -/

/-- One item at least, with commas between the items and a closing mark. -/
def readSeparated
    (readItem : List Char → Option (α × List Char))
    (close : Char) :
    Nat → List Char → Option (List α × List Char)
  | 0, _ => none
  | fuel + 1, input => do
    let (item, input) ← readItem input
    match skipBlanks input with
    | [] => none
    | mark :: rest =>
      if mark = ',' then
        let (items, rest) ← readSeparated readItem close fuel rest
        return (item :: items, rest)
      else if mark = close then return ([item], rest)
      else none

def readSequence
    (readItem : List Char → Option (α × List Char))
    (close : Char)
    (fuel : Nat)
    (input : List Char) :
    Option (List α × List Char) :=
  match skipBlanks input with
  | [] => none
  | mark :: rest =>
    if mark = close then some ([], rest)
    else readSeparated readItem close fuel (mark :: rest)

/-- A name, a colon and a value. -/
def readMember
    (readItem : List Char → Option (α × List Char))
    (fuel : Nat)
    (input : List Char) :
    Option ((String × α) × List Char) :=
  match skipBlanks input with
  | '"' :: input => do
    let (name, input) ← readQuoted fuel input
    match skipBlanks input with
    | ':' :: input =>
      let (value, rest) ← readItem input
      return ((String.ofList name, value), rest)
    | _ => none
  | _ => none

/-! ### Values -/

/-- A bare count stands for itself, every other number for the nearest
double. -/
def ofLiteral (literal : Literal) : Option Datum :=
  if literal.isBare && !literal.negative then some (.count literal.numeral.coefficient)
  else (nearest literal.negative literal.numeral).map .real

def readValue : Nat → List Char → Option (Datum × List Char)
  | 0, _ => none
  | fuel + 1, input =>
    match skipBlanks input with
    | '"' :: input => do
      let (characters, rest) ← readQuoted fuel input
      return (.text (String.ofList characters), rest)
    | '[' :: input => do
      let (items, rest) ← readSequence (readValue fuel) ']' fuel input
      return (.list items, rest)
    | '{' :: input => do
      let (members, rest) ← readSequence (readMember (readValue fuel) fuel) '}' fuel input
      return (.record members, rest)
    | 'n' :: 'u' :: 'l' :: 'l' :: rest => some (.null, rest)
    | 't' :: 'r' :: 'u' :: 'e' :: rest => some (.truth true, rest)
    | 'f' :: 'a' :: 'l' :: 's' :: 'e' :: rest => some (.truth false, rest)
    | input => do
      let (literal, rest) ← readNumber input
      let datum ← ofLiteral literal
      return (datum, rest)

/-- The value of a text that holds nothing else. -/
def read (input : String) : Option Datum := do
  let (datum, rest) ← readValue (input.length + 1) input.toList
  if (skipBlanks rest).isEmpty then return datum else none

end Datum

namespace Json

mutual

/-- The value that the text of a report stands for. -/
def datum : Json → Datum
  | .count value => .count value
  | .real value => if value.isFinite then .real value else .null
  | .text value => .text value
  | .list items => .list (itemData items)
  | .record members => .record (memberData members)

def itemData : List Json → List Datum
  | [] => []
  | item :: rest => item.datum :: itemData rest

def memberData : List (String × Json) → List (String × Datum)
  | [] => []
  | (name, value) :: rest => (name, value.datum) :: memberData rest

end

end Json

end Throughput
