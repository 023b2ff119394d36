import Throughput.Log
import Throughput.Settings

/-!
Contract: a text that says which entries of the log are shown.

Owns:
- `Entry.target`, the part of the program that an entry comes from;
- `Directive`, the level from which on the entries of some parts are shown, and
  how one is read;
- `readFilter`, which reads a text of directives, with what they show.

The directives of a text are separated by commas. Each is a level, the beginning
of the names of some parts, or both with `=` in between. Of the directives about
a part, the most specific one decides. A directive may also name a span, between
brackets; the program opens none, so such a directive shows nothing.
-/

namespace Throughput.Log

/-- The name of the part that an entry comes from. -/
def Entry.target : Entry → String
  | .loopFinished .. => "ton80::measure"
  | .cycleComplete .. => "ton80::runner"
  | .cycleFailed .. => "ton80::runner"
  | .suiteStarting .. => "ton80::report"
  | .kernelMeasuring .. => "ton80::report"
  | .kernelComplete .. => "ton80::report"
  | .suiteComplete .. => "ton80::report"
  | .writeFailed .. => "ton80::report"

/-- The least rank that is shown at a level, by its names. The last two levels
are above everything that is logged. -/
def leastRanks : List (String × Nat) :=
  [("trace", 0), ("5", 0), ("debug", 1), ("4", 1), ("info", 2), ("3", 2), ("warn", 3), ("2", 3),
    ("error", 4), ("1", 4), ("off", 5), ("0", 5)]

/-- Names of levels may have capitals. -/
def leastRank? (name : List Char) : Option Nat :=
  (leastRanks.find? fun entry => entry.1.toList = name.map Settings.smallLetter).map Prod.snd

structure Directive where
  /-- How the names of the parts begin. -/
  target : List Char
  /-- Whether only what happens in a span is meant. -/
  inSpan : Bool
  /-- The least rank that is shown of what is logged there. -/
  least : Nat
deriving DecidableEq, Repr

namespace Directive

def inTarget (character : Char) : Bool :=
  character.isAlphanum || character = '_' || character = '-' || character = ':'

/-- Reads a level alone, which is for all parts, or parts and a span with a
level. Without one, everything is shown of them. -/
def read? (text : List Char) : Option Directive :=
  match leastRank? text with
  | some least => some { target := [], inSpan := false, least }
  | none =>
    let target := text.takeWhile inTarget
    let rest := text.dropWhile inTarget
    let inSpan := rest.head? = some '['
    if target = [] ∧ ¬inSpan then none
    else
      match if inSpan then (rest.dropWhile (· ≠ ']')).tail? else some rest with
      | some [] => some { target, inSpan, least := 0 }
      | some ('=' :: []) => some { target, inSpan, least := 0 }
      | some ('=' :: level) =>
        (leastRank? level).map fun least => { target, inSpan, least }
      | _ => none

/-- Whether a directive is about an entry, which comes from some part and from
no span. -/
def governs (entry : Entry) (directive : Directive) : Bool :=
  !directive.inSpan && directive.target.isPrefixOf entry.target.toList

/-- The directive that decides about an entry: the one with the longest target,
and of several such the last. -/
def deciding? (directives : List Directive) (entry : Entry) : Option Directive :=
  (directives.filter (governs entry)).foldl
    (fun best directive =>
      if best.all fun other => other.target.length ≤ directive.target.length then some directive
      else best)
    none

/-- What no directive is about is not shown. -/
def shows (directives : List Directive) (entry : Entry) : Bool :=
  (deciding? directives entry).any fun directive => directive.least ≤ entry.level.rank

end Directive

/-- What is shown under a text of directives; none if one of them is not read. -/
def readFilter (text : String) : Option (Entry → Bool) :=
  let parts := ((text.splitOn ",").filter (· ≠ "")).map String.toList
  (parts.mapM Directive.read?).map Directive.shows

end Throughput.Log
