/-!
Contract: which kernels a run selects and how it presents them.

Owns:
- `Settings`, with its changes one at a time;
- `Settings.ofEnvironment`, the settings that environment variables ask for;
- `Settings.selects`, the rule by which a filter selects a name.

The protocol of measuring is fixed; nothing here changes it.
-/

namespace Throughput

/-- What can be chosen about a run. -/
structure Settings where
  /-- Only kernels whose name contains this text are run. -/
  filter : Option String := none
  verbose : Bool := false
  json : Bool := false
deriving DecidableEq, Repr

namespace Settings

/-- Whether one sequence of characters occurs in another without a gap. -/
def occurs (part : List Char) : List Char → Bool
  | [] => part.isEmpty
  | first :: rest => part.isPrefixOf (first :: rest) || occurs part rest

/-- Whether a kernel of this name is run. -/
def selects (settings : Settings) (name : String) : Bool :=
  match settings.filter with
  | none => true
  | some part => occurs part.toList name.toList

/-- An ASCII letter in its small form; any other character as it is. -/
def smallLetter (character : Char) : Char :=
  if 'A' ≤ character ∧ character ≤ 'Z' then
    Char.ofNat (character.toNat + 32)
  else
    character

/-- Whether a variable switches its setting on: every text does but `0` and
`false`, the latter in any mixture of ASCII capitals and small letters. -/
def isOn (value : String) : Bool :=
  value ≠ "0" && value.toList.map smallLetter ≠ "false".toList

def filterVariable : String := "TON80_FILTER"

def verboseVariable : String := "TON80_VERBOSE"

def jsonVariable : String := "TON80_JSON"

/-- The settings that an environment asks for. A variable that is not set, or
whose value is no text, changes nothing; an empty filter is no filter. -/
def ofEnvironment (lookup : String → Option String) : Settings where
  filter := (lookup filterVariable).filter (· ≠ "")
  verbose := (lookup verboseVariable).any isOn
  json := (lookup jsonVariable).any isOn

def withFilter (part : String) (settings : Settings) : Settings :=
  { settings with filter := some part }

def withoutFilter (settings : Settings) : Settings :=
  { settings with filter := none }

def withVerbose (verbose : Bool) (settings : Settings) : Settings :=
  { settings with verbose }

def withJson (json : Bool) (settings : Settings) : Settings :=
  { settings with json }

end Settings

end Throughput
