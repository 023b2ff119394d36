import Throughput.Log
import Throughput.Report

/-!
Contract: what a run tells its reporters, and what they make of it.

Owns:
- `Notice`, the messages of a run;
- `Effect`, what a reporter may ask for: a line on the output, a log entry,
  or a notice kept under a label;
- `Outlet`, the single reporters, each a function from a notice to effects;
- `Reporter`, the trees in which outlets are combined. A tree passes a notice
  to its members from left to right.

A reporter answers a notice with data and nothing else, so it has no way to
reach a kernel or the clock.
-/

namespace Throughput

/-- What a run tells its reporters. -/
inductive Notice where
  /-- A suite starts, with so many kernels selected. -/
  | suiteStart (suite : String) (kernels : Nat)
  /-- The first cycle of a kernel is about to start. -/
  | kernelStart (kernel : String)
  /-- All cycles of a kernel have succeeded. -/
  | kernelEnd (report : Report Float)
  /-- The only cycle of a kernel has succeeded. -/
  | singleSample (sample : Sample Float)
  /-- All kernels have succeeded. -/
  | suiteEnd (result : SuiteResult)

/-- What a reporter may ask for. -/
inductive Effect where
  | print (line : String)
  | record (entry : Log.Entry)
  /-- Keeps the notice itself under a label. -/
  | capture (label : String) (notice : Notice)

/-- The single reporters. -/
inductive Outlet where
  /-- Writes one tab-separated line for each kernel. -/
  | console
  /-- Writes one JSON line for each kernel and one to close the suite. -/
  | json
  | log
  | silent
  /-- Keeps every notice under its label. -/
  | capture (label : String)

/-- The whole milliseconds in a span of nanoseconds, in a word of 64 bits. -/
def millisWord (nanos : Nat) : Nat :=
  nanos / 1000000 % Nat.pow 2 64

namespace Outlet

/-- The lines of the console reporter. -/
def consoleEffects : Notice → List Effect
  | .kernelEnd report => [.print report.line]
  | .singleSample sample => [.print sample.line]
  | _ => []

/-- The lines of the JSON reporter. -/
def jsonEffects : Notice → List Effect
  | .kernelEnd report => [.print report.json.line]
  | .singleSample sample => [.print sample.json.line]
  | .suiteEnd result => [.print result.json.line]
  | _ => []

/-- The entries of the log reporter. It has nothing to say about a single
sample. -/
def logEffects : Notice → List Effect
  | .suiteStart suite kernels => [.record (.suiteStarting suite kernels)]
  | .kernelStart kernel => [.record (.kernelMeasuring kernel)]
  | .kernelEnd report =>
    [.record
      (.kernelComplete report.name report.summary.best report.meanMicros
        report.summary.confidencePercent)]
  | .singleSample _ => []
  | .suiteEnd result =>
    [.record
      (.suiteComplete result.suite result.reports.length
        (millisWord result.totalNanos))]

/-- What an outlet makes of a notice. -/
def effects : Outlet → Notice → List Effect
  | .console, notice => consoleEffects notice
  | .json, notice => jsonEffects notice
  | .log, notice => logEffects notice
  | .silent, _ => []
  | .capture label, notice => [.capture label notice]

end Outlet

/-- A tree of outlets, of whatever kind `ω`. -/
inductive Reporter (ω : Type) where
  | outlet (single : ω)
  | all (members : List (Reporter ω))

namespace Reporter

variable {ω ε : Type}

mutual

/-- What a tree makes of a notice: the effects of its members, in order. -/
def effects (respond : ω → Notice → List ε) : Reporter ω → Notice → List ε
  | .outlet single, notice => respond single notice
  | .all members, notice => effectsAll respond members notice

/-- What the members of a tree make of a notice, from left to right. -/
def effectsAll (respond : ω → Notice → List ε) :
    List (Reporter ω) → Notice → List ε
  | [], _ => []
  | first :: rest, notice =>
    effects respond first notice ++ effectsAll respond rest notice

end

end Reporter

end Throughput
