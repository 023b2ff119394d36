import Throughput.Reporter

/-!
Contract: the surroundings in which a run takes place.

Owns:
- `Clock`, a source of elapsed milliseconds;
- `Host`, a clock together with an output, a log, a place for captured
  notices and the time of day;
- `Host.perform`, which carries out what a reporter asks for.

Everything is an action of one monad `m`, in which the kernels live too. The
program runs in `IO`; a deterministic run is one in a state monad.
-/

namespace Throughput

/-- A source of elapsed time. It may be coarse. -/
structure Clock (m : Type → Type) where
  /-- Makes this instant the origin. -/
  start : m Unit
  /-- Whole milliseconds since the origin. -/
  elapsed : m Nat

/-- The surroundings of a run. -/
structure Host (m : Type → Type) extends Clock m where
  /-- Writes a text to the output; a refusal is answered with its reason. -/
  write : String → m (Option String)
  record : Log.Entry → m Unit
  /-- Keeps a notice under a label. -/
  capture : String → Notice → m Unit
  /-- Milliseconds since 1970. -/
  dayMillis : m Nat
  /-- Nanoseconds since some fixed instant. -/
  nanos : m Nat

namespace Host

variable {m : Type → Type} [Monad m]

/-- Writes a line. A refused line is lost, and the log says so. -/
def printLine (host : Host m) (line : String) : m Unit := do
  match ← host.write (line ++ "\n") with
  | none => pure ()
  | some reason => host.record (.writeFailed reason)

/-- Carries out one effect. -/
def perform (host : Host m) : Effect → m Unit
  | .print line => host.printLine line
  | .record entry => host.record entry
  | .capture label notice => host.capture label notice

/-- Carries out effects in order. -/
def performAll (host : Host m) : List Effect → m Unit
  | [] => pure ()
  | first :: rest => do
    host.perform first
    host.performAll rest

end Host

end Throughput
