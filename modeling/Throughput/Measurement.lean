import Throughput.Host
import Throughput.Kernel
import Throughput.Scalar

/-!
Contract: how long a unit of work takes, and one full cycle of a kernel.

Owns:
- `Timing`, the outcome of a measurement loop, and its mean in microseconds;
- `timeAtLeast`, the loop that repeats a unit of work until a minimum has
  elapsed;
- `Kernel.measure`, the cycle of setup, warmup, exercise and teardown.

A loop need not end: the clock may stand still. Every loop therefore goes
round at most `patience` times; giving up is told apart from failing, by
`Halt`, so that no statement about failures depends on it.
-/

namespace Throughput

/-- The least duration of the warmup loop, in milliseconds. -/
def warmupMillis : Nat := 100

/-- The least duration of the exercise loop, in milliseconds. -/
def exerciseMillis : Nat := 2000

/-- Why a run stops early. -/
inductive Halt where
  | failed (failure : Failure)
  /-- A measurement loop went round as often as it was allowed to. -/
  | unfinished
deriving DecidableEq, Repr

/-- Says in which step of which kernel a run stopped. -/
def Halt.inPhase (name : String) (phase : Phase) : Halt → Halt
  | .failed failure => .failed (failure.inPhase name phase)
  | .unfinished => .unfinished

/-- The outcome of a measurement loop: how often the work was done, and how
many milliseconds had elapsed when the loop ended. The count has no bound, where
a counter of 64 bits would run over: no loop gets to `2 ^ 64` rounds, which take
centuries even if the work takes no more than a nanosecond. -/
structure Timing where
  iterations : Nat
  elapsed : Nat
deriving DecidableEq, Repr

/-- The mean duration of one unit of work in microseconds. -/
def Timing.micros {α : Type} [Scalar α] (timing : Timing) : α :=
  1000.0 * Scalar.ofNat timing.elapsed / Scalar.ofNat timing.iterations

variable {m : Type → Type} [Monad m]

/-- The loop of `timeAtLeast`, with `iterations` units of work already done:
work, then a look at the clock, until the minimum has elapsed. -/
@[specialize]
def timingLoop
    (clock : Clock m)
    (work : ExceptT Fault m Unit)
    (minimum : Nat) :
    Nat → Nat → ExceptT Halt m Timing
  | 0, _ => throw .unfinished
  | patience + 1, iterations => do
    work.adapt fun fault => .failed (.work fault)
    let elapsed ← clock.elapsed
    if elapsed < minimum then
      timingLoop clock work minimum patience (iterations + 1)
    else
      return ⟨iterations + 1, elapsed⟩

/-- Repeats a unit of work until `minimum` milliseconds have elapsed. The work
is done once at least, and the loop never ends early, so the time taken is the
minimum and what the last unit adds to it. A minimum of zero is refused before
anything happens. -/
@[specialize]
def timeAtLeast
    (host : Host m)
    (patience : Nat)
    (work : ExceptT Fault m Unit)
    (minimum : Nat) :
    ExceptT Halt m Timing := do
  if minimum = 0 then
    throw (.failed (.invalidMinimum minimum))
  host.start
  let timing ← timingLoop host.toClock work minimum patience 0
  host.record (.loopFinished timing.iterations timing.elapsed minimum)
  return timing

/-- One full cycle of a kernel; the outcome is that of its exercise loop. A
step that fails ends the cycle, and `teardown` is left out then. -/
@[specialize]
def Kernel.measure
    (host : Host m)
    (patience : Nat)
    (kernel : Kernel m) :
    ExceptT Halt m Timing := do
  kernel.setup.adapt fun fault => .failed (.kernel kernel.name .setup fault)
  let _ ← (timeAtLeast host patience kernel.warmup warmupMillis).adapt
    (Halt.inPhase kernel.name .warmup)
  let timing ← (timeAtLeast host patience kernel.exercise exerciseMillis).adapt
    (Halt.inPhase kernel.name .exercise)
  kernel.teardown.adapt fun fault => .failed (.kernel kernel.name .teardown fault)
  return timing

end Throughput
