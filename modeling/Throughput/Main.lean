import Throughput.CommandLine.Program
import Throughput.Stopwatch

/-!
Contract: the program itself.

Measures the bundled kernels as its arguments and the environment say.
-/

namespace Throughput

open CommandLine

/-- How often a measurement loop may go round: more often than a clock of
milliseconds lets it in any lifetime. -/
def patience : Nat := Nat.pow 2 62

/-- The bytes of the environment variables that the program knows. -/
def readEnvironment : IO (String → Option RawText) := do
  let names :=
    [Settings.filterVariable, Settings.verboseVariable, Settings.jsonVariable, logVariable]
  let values ← names.mapM fun name => do
    return (name, (← IO.getEnv name).map RawText.ofString)
  return fun name => values.lookup name |>.join

/-- Runs the program in the real world. -/
def runProgram (arguments : List String) : IO UInt32 := do
  let log ← IO.getStderr
  let host ← Stopwatch.host (← IO.getStdout) log
  let states ← IO.mkRef ({} : Bundled.State)
  let lift : {β : Type} → StateM Bundled.State β → IO β :=
    fun action => states.modifyGet action.run
  let result ← execute host patience lift (← readEnvironment)
    (arguments.map RawText.ofString)
  if let some complaint := result.complaint then
    log.putStr complaint
  return result.code.toUInt32

end Throughput

def main (arguments : List String) : IO UInt32 :=
  Throughput.runProgram arguments
