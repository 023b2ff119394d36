import Throughput.Decimal.NumberFormat

/-!
Contract: the JSON lines of reports.

Owns:
- `Json`, the values that reports are made of;
- `Json.quoted`, a text between quotation marks with the escapes that keep
  it on one line;
- `Json.chars` and `Json.line`, the compact text of a value: members in the
  order of the record, no blanks.

A raw character below U+0020 never appears in the text of a value, so every
value takes exactly one line of output.
-/

namespace Throughput

/-- A report as data: whole counts, measured numbers, texts, sequences and
records with named members. -/
inductive Json where
  | count (value : Nat)
  | real (value : Float)
  | text (value : String)
  | list (items : List Json)
  | record (members : List (String × Json))

namespace Json

/-- The escaped form of a character: the quotation mark and the backslash take
a backslash, five control characters have a letter of their own, and the rest
below U+0020 are written by code. Every other character stands for itself. -/
def escaped (character : Char) : List Char :=
  if character = '"' then ['\\', '"']
  else if character = '\\' then ['\\', '\\']
  else if character = '\x08' then ['\\', 'b']
  else if character = '\x0c' then ['\\', 'f']
  else if character = '\n' then ['\\', 'n']
  else if character = '\r' then ['\\', 'r']
  else if character = '\t' then ['\\', 't']
  else if character.toNat < 32 then
    ['\\', 'u', '0', '0',
      Nat.digitChar (character.toNat / 16),
      Nat.digitChar (character.toNat % 16)]
  else [character]

/-- A text between quotation marks. -/
def quoted (text : String) : List Char :=
  '"' :: text.toList.flatMap escaped ++ ['"']

mutual

def chars : Json → List Char
  | .count value => Decimal.digits value
  | .real value => (Decimal.NumberFormat.json.write value).toList
  | .text value => quoted value
  | .list items => '[' :: itemChars items ++ [']']
  | .record members => '{' :: memberChars members ++ ['}']

/-- The items of a sequence with commas between them. -/
def itemChars : List Json → List Char
  | [] => []
  | [item] => item.chars
  | item :: next :: rest => item.chars ++ ',' :: itemChars (next :: rest)

/-- The members of a record with commas between them. -/
def memberChars : List (String × Json) → List Char
  | [] => []
  | [(name, value)] => quoted name ++ ':' :: value.chars
  | (name, value) :: next :: rest =>
    quoted name ++ ':' :: value.chars ++ ',' :: memberChars (next :: rest)

end

/-- The line that holds a value. -/
def line (value : Json) : String :=
  String.ofList value.chars

/-- A member that is left out when there is no value for it. -/
def optionalMember (name : String) (value : Option Float) : List (String × Json) :=
  (value.map fun number => (name, .real number)).toList

end Json

end Throughput
