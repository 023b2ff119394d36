import Std.Time.DateTime.Timestamp
import Throughput.Host

/-!
Contract: the clock of the real world, and the program's host.

Owns:
- `Stopwatch.clock`, whole milliseconds by the monotonic clock of the system;
- `Stopwatch.host`, which adds an output and a log.

Everything here is an effect, and decides nothing.
-/

namespace Throughput.Stopwatch

/-- A clock whose origin is the present. -/
def clock : IO (Clock IO) := do
  let origin ← IO.mkRef (← IO.monoNanosNow)
  return {
    start := do origin.set (← IO.monoNanosNow)
    elapsed := do return ((← IO.monoNanosNow) - (← origin.get)) / 1000000 }

/-- Writes a text at once; a refusal is answered with its reason. -/
def writeTo (output : IO.FS.Stream) (text : String) : IO (Option String) := do
  try
    output.putStr text
    output.flush
    return none
  catch error =>
    return some (toString error)

/-- The host that writes reports to one stream and the log to another. -/
def host (output log : IO.FS.Stream) : IO (Host IO) := do
  return {
    (← clock) with
    write := writeTo output
    record := fun entry => do let _ ← writeTo log entry.line
    capture := fun _ _ => return
    dayMillis := do
      return (← Std.Time.Timestamp.now).toMillisecondsSinceUnixEpoch.val.toNat
    nanos := IO.monoNanosNow }

end Throughput.Stopwatch
