/-!
Contract: what a list of arguments asks for.

Owns:
- `RawText`, a text as it comes from outside, which may be no text at all;
- `Choices`, what the options of a run say;
- `Progress.read`, which reads one argument, and `parse`, which reads them from
  left to right, up to the first that asks for help or the version, or that is
  refused.

An option may be given once. A long option is written out in full; of the two
ways to give it a value, after `=` or as the next argument, the second needs a
value that does not look like an option. One-letter options may be joined.
There are no arguments besides options, and none may follow `--`.
-/

namespace Throughput.CommandLine

/-- A text as it comes from outside: bytes that may or may not be UTF-8. -/
abbrev RawText := List UInt8

/-- The text that the bytes encode. -/
def RawText.decode? (raw : RawText) : Option String :=
  String.fromUTF8? ⟨raw.toArray⟩

def RawText.ofString (text : String) : RawText :=
  text.toUTF8.toList

structure Choices where
  filter : Option String := none
  list : Bool := false
  single : Bool := false
  json : Bool := false
  verbose : Bool := false
deriving DecidableEq, Repr

/-- Why arguments are refused. -/
inductive UsageError where
  /-- There is no such argument, or it has a value that it cannot have. -/
  | unexpected (argument : RawText)
  | valueMissing (option : String)
  | repeated (option : String)
  | notUtf8 (option : String)
deriving DecidableEq, Repr

def UsageError.message : UsageError → String
  | .unexpected argument =>
    "unexpected argument '" ++ (RawText.decode? argument).getD "(not UTF-8)" ++ "' found"
  | .valueMissing option => "a value is required for '" ++ option ++ "' but none was supplied"
  | .repeated option => "the argument '" ++ option ++ "' cannot be used multiple times"
  | .notUtf8 option => "the value of '" ++ option ++ "' is not valid UTF-8"

/-- What ends the reading of arguments before they are all read. -/
inductive Answer where
  /-- The short help, or the long one. -/
  | help (long : Bool)
  | version
  | refused (error : UsageError)
deriving DecidableEq, Repr

inductive Flag where
  | list
  | single
  | json
  | verbose
  | help (long : Bool)
  | version
deriving DecidableEq, Repr

def longFlags : List (String × Flag) :=
  [("list", .list), ("single", .single), ("json", .json), ("verbose", .verbose),
    ("help", .help true), ("version", .version)]

def shortFlags : List (Char × Flag) :=
  [('v', .verbose), ('h', .help false), ('V', .version)]

def longFlag? (name : RawText) : Option Flag :=
  (longFlags.find? fun entry => RawText.ofString entry.1 = name).map Prod.snd

/-- The flag with a letter, given by its byte. -/
def shortFlag? (letter : UInt8) : Option Flag :=
  (shortFlags.find? fun entry => entry.1.toUInt8 = letter).map Prod.snd

def hyphen : UInt8 := 45

def equalsSign : UInt8 := 61

/-- The forms that an argument can have. -/
inductive Form where
  /-- Two hyphens and nothing else. -/
  | separator
  /-- Two hyphens and a name, with what follows the first equals sign. -/
  | long (name : RawText) (value : Option RawText)
  /-- A hyphen and at least one letter. -/
  | short (letters : RawText)
  /-- Anything else; a single hyphen is no option. -/
  | plain
deriving DecidableEq, Repr

/-- The form of an argument. -/
def Form.of : RawText → Form
  | first :: second :: rest =>
    if first ≠ hyphen then .plain
    else if second ≠ hyphen then .short (second :: rest)
    else if rest = [] then .separator
    else
      .long (rest.takeWhile (· ≠ equalsSign))
        (rest.dropWhile (· ≠ equalsSign)).tail?
  | _ => .plain

namespace Choices

/-- Sets a flag that has not been set before. -/
def setOnce
    (option : String)
    (given : Bool)
    (changed : Choices) :
    Except Answer Choices :=
  if given then .error (.refused (.repeated option)) else .ok changed

def follow (choices : Choices) : Flag → Except Answer Choices
  | .list => setOnce "--list" choices.list { choices with list := true }
  | .single => setOnce "--single" choices.single { choices with single := true }
  | .json => setOnce "--json" choices.json { choices with json := true }
  | .verbose => setOnce "--verbose" choices.verbose { choices with verbose := true }
  | .help long => .error (.help long)
  | .version => .error .version

/-- Sets the filter, if it has not been set before. -/
def setFilter (choices : Choices) (value : RawText) : Except Answer Choices :=
  match value.decode? with
  | none => .error (.refused (.notUtf8 "--filter"))
  | some filter =>
    if choices.filter.isSome then .error (.refused (.repeated "--filter"))
    else .ok { choices with filter := some filter }

/-- Follows joined letters from left to right. -/
def followLetters (argument : RawText) :
    Choices → RawText → Except Answer Choices
  | choices, [] => .ok choices
  | choices, letter :: rest =>
    match shortFlag? letter with
    | none => .error (.refused (.unexpected argument))
    | some flag =>
      match choices.follow flag with
      | .error answer => .error answer
      | .ok changed => followLetters argument changed rest

end Choices

def filterName : RawText := RawText.ofString "filter"

/-- Whether an argument can be the value of the option before it. -/
def canBeValue (argument : RawText) : Bool :=
  Form.of argument = .plain

/-- What the next argument may be. -/
inductive Mode where
  | option
  | value
  /-- Nothing: the options have been closed. -/
  | nothing
deriving DecidableEq, Repr

/-- How far the reading of arguments has come. -/
structure Progress where
  choices : Choices := {}
  mode : Mode := .option
deriving DecidableEq, Repr

namespace Progress

def readOption (choices : Choices) (argument : RawText) : Except Answer Progress :=
  match Form.of argument with
  | .plain => .error (.refused (.unexpected argument))
  | .separator => .ok ⟨choices, .nothing⟩
  | .short letters => return ⟨← choices.followLetters argument letters, .option⟩
  | .long name value =>
    if name = filterName then
      match value with
      | none => .ok ⟨choices, .value⟩
      | some text => return ⟨← choices.setFilter text, .option⟩
    else
      match longFlag? name, value with
      | some flag, none => return ⟨← choices.follow flag, .option⟩
      | _, _ => .error (.refused (.unexpected argument))

def read (progress : Progress) (argument : RawText) : Except Answer Progress :=
  match progress.mode with
  | .option => readOption progress.choices argument
  | .value =>
    if canBeValue argument then
      return ⟨← progress.choices.setFilter argument, .option⟩
    else .error (.refused (.valueMissing "--filter"))
  | .nothing => .error (.refused (.unexpected argument))

def finish (progress : Progress) : Except Answer Choices :=
  match progress.mode with
  | .value => .error (.refused (.valueMissing "--filter"))
  | _ => .ok progress.choices

end Progress

/-- Reads arguments from left to right. -/
def parse (arguments : List RawText) : Except Answer Choices := do
  (← arguments.foldlM Progress.read {}).finish

end Throughput.CommandLine
