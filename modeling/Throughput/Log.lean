import Throughput.Decimal.NumberFormat
import Throughput.Failure

/-!
Contract: the records that a run leaves in the log.

Owns:
- `Log.Entry`, one constructor for each thing that is logged, with the values
  that belong to it;
- the level, the message and the named fields under which an entry appears,
  and the line that they make.

Does not own: where a log goes, or which levels are shown.
-/

namespace Throughput.Log

/-- How much an entry matters, from the least. -/
inductive Level where
  | trace
  | debug
  | info
  | warn
deriving DecidableEq, Repr

def Level.name : Level → String
  | .trace => "TRACE"
  | .debug => "DEBUG"
  | .info => "INFO"
  | .warn => "WARN"

/-- The rank of a level: the more an entry matters, the higher. -/
def Level.rank : Level → Nat
  | .trace => 0
  | .debug => 1
  | .info => 2
  | .warn => 3

inductive Value where
  | count (value : Nat)
  | real (value : Float)
  | text (value : String)

def Value.written : Value → String
  | .count value => toString value
  | .real value => Decimal.NumberFormat.plain.write value
  | .text value => value

/-- Everything that is logged. -/
inductive Entry where
  /-- A measurement loop reached its minimum. -/
  | loopFinished (iterations elapsed minimum : Nat)
  /-- A cycle of a sample set gave a sample. -/
  | cycleComplete (cycle : Nat) (micros : Float)
  /-- A cycle of a sample set failed, and with it the run. -/
  | cycleFailed (cycle : Nat) (failure : Failure)
  | suiteStarting (suite : String) (kernels : Nat)
  | kernelMeasuring (kernel : String)
  | kernelComplete
      (kernel : String) (best meanMicros : Float) (confidencePercent : Option Float)
  | suiteComplete (suite : String) (kernels elapsedMillis : Nat)
  /-- A report line was refused by the output and is lost. -/
  | writeFailed (reason : String)

namespace Entry

def level : Entry → Level
  | .loopFinished .. => .trace
  | .cycleComplete .. => .debug
  | .cycleFailed .. => .debug
  | .suiteStarting .. => .info
  | .kernelMeasuring .. => .info
  | .kernelComplete .. => .debug
  | .suiteComplete .. => .info
  | .writeFailed .. => .warn

def message : Entry → String
  | .loopFinished .. => "measurement loop finished"
  | .cycleComplete .. => "measurement cycle complete"
  | .cycleFailed .. => "measurement cycle failed"
  | .suiteStarting .. => "starting benchmark suite"
  | .kernelMeasuring .. => "measuring kernel"
  | .kernelComplete .. => "kernel complete"
  | .suiteComplete .. => "benchmark suite complete"
  | .writeFailed .. => "failed to write report line"

/-- The fields of an entry by name. -/
def fields : Entry → List (String × Value)
  | .loopFinished iterations elapsed minimum =>
    [("iterations", .count iterations), ("elapsed", .count elapsed),
      ("minimum_millis", .count minimum)]
  | .cycleComplete cycle micros =>
    [("cycle", .count cycle), ("sample_micros", .real micros)]
  | .cycleFailed cycle failure =>
    [("cycle", .count cycle), ("error", .text failure.message)]
  | .suiteStarting suite kernels =>
    [("suite", .text suite), ("kernels", .count kernels)]
  | .kernelMeasuring kernel => [("kernel", .text kernel)]
  | .kernelComplete kernel best meanMicros confidencePercent =>
    [("kernel", .text kernel), ("best", .real best),
      ("mean_micros", .real meanMicros),
      ("confidence",
        .text (Decimal.NumberFormat.diagnostic.writeOption confidencePercent))]
  | .suiteComplete suite kernels elapsedMillis =>
    [("suite", .text suite), ("kernels", .count kernels),
      ("elapsed_ms", .count elapsedMillis)]
  | .writeFailed reason => [("error", .text reason)]

/-- An entry on one line: its level, its message and its fields. -/
def line (entry : Entry) : String :=
  " ".intercalate
    (entry.level.name :: entry.message ::
      entry.fields.map fun (name, value) => name ++ "=" ++ value.written) ++ "\n"

end Entry

end Throughput.Log
