import Throughput.Measurement
import Throughput.Settings

/-!
Contract: a list of kernels, measured in order.

Owns:
- `Suite`, with its kernels, settings and reporters, and the changes to it;
- `Suite.measureAll`, ten cycles and a report for each selected kernel;
- `Suite.measureOnce`, one cycle and a sample for each selected kernel.

Kernels are measured strictly one after another, and the first failure ends
the pass: neither the kernel that failed nor any later one is reported.
-/

namespace Throughput

/-- How many cycles a kernel is measured for. -/
def sampleCount : Nat := 10

/-- A list of kernels with the settings and the reporters of a run. -/
structure Suite (m : Type → Type) [Monad m] where
  name : String
  settings : Settings
  kernels : List (Kernel m)
  reporters : List (Reporter Outlet)

namespace Suite

variable {m : Type → Type} [Monad m]

/-- A suite without kernels. Its reporters are the log and, as the settings
say, the console or the JSON lines. -/
def empty (name : String) (settings : Settings) : Suite m where
  name
  settings
  kernels := []
  reporters := [.outlet .log, .outlet (if settings.json then .json else .console)]

def withReporters (reporters : List (Reporter Outlet)) (suite : Suite m) : Suite m :=
  { suite with reporters }

def addReporter (reporter : Reporter Outlet) (suite : Suite m) : Suite m :=
  { suite with reporters := suite.reporters ++ [reporter] }

def register (kernel : Kernel m) (suite : Suite m) : Suite m :=
  { suite with kernels := suite.kernels ++ [kernel] }

/-- The kernels that the settings select, in order. -/
def selected (suite : Suite m) : List (Kernel m) :=
  suite.kernels.filter fun kernel => suite.settings.selects kernel.name

def selectedNames (suite : Suite m) : List String :=
  suite.selected.map (·.name)

/-- What all reporters together make of a notice. -/
def effects (suite : Suite m) (notice : Notice) : List Effect :=
  Reporter.effectsAll Outlet.effects suite.reporters notice

def notify
    (host : Host m)
    (suite : Suite m)
    (notice : Notice) :
    ExceptT Halt m Unit :=
  ExceptT.lift (host.performAll (suite.effects notice))

/-- One cycle of a sample set. The log tells how it went. -/
def sampleCycle
    (host : Host m)
    (patience : Nat)
    (kernel : Kernel m)
    (cycle : Nat) :
    ExceptT Halt m Float := ExceptT.mk do
  match ← (kernel.measure host patience).run with
  | .ok timing =>
    let micros := timing.micros
    host.record (.cycleComplete cycle micros)
    return .ok micros
  | .error (.failed failure) =>
    host.record (.cycleFailed cycle failure)
    return .error (.failed failure)
  | .error .unfinished => return .error .unfinished

/-- The samples of `remaining` cycles, the first of which has the number
`cycle`. -/
def samplesFrom
    (host : Host m)
    (patience : Nat)
    (kernel : Kernel m) :
    Nat → Nat → ExceptT Halt m (List Float)
  | _, 0 => return []
  | cycle, remaining + 1 => do
    let micros ← sampleCycle host patience kernel cycle
    let rest ← samplesFrom host patience kernel (cycle + 1) remaining
    return micros :: rest

/-- All cycles of one kernel, with the notices around them. -/
def measureKernel
    (host : Host m)
    (patience : Nat)
    (suite : Suite m)
    (kernel : Kernel m) :
    ExceptT Halt m (Report Float) := do
  suite.notify host (.kernelStart kernel.name)
  let samples ← samplesFrom host patience kernel 0 sampleCount
  let report ← ExceptT.mk (pure ((Report.ofSamples kernel.name samples).mapError .failed))
  suite.notify host (.kernelEnd report)
  return report

/-- Measures each kernel of a list in turn, up to the first failure. -/
def measureEach
    {α : Type}
    (measureOne : Kernel m → ExceptT Halt m α) :
    List (Kernel m) → ExceptT Halt m (List α)
  | [] => return []
  | kernel :: rest => do
    let outcome ← measureOne kernel
    let outcomes ← measureEach measureOne rest
    return outcome :: outcomes

/-- Measures every selected kernel for ten cycles and reports it. -/
def measureAll
    (host : Host m)
    (patience : Nat)
    (suite : Suite m) :
    ExceptT Halt m SuiteResult := do
  let startNanos ← host.nanos
  let startMillis ← host.dayMillis
  suite.notify host (.suiteStart suite.name suite.selected.length)
  let reports ← measureEach (suite.measureKernel host patience) suite.selected
  let endNanos ← host.nanos
  let result : SuiteResult := {
    suite := suite.name
    reports
    totalNanos := endNanos - startNanos
    startedAt := toString startMillis }
  suite.notify host (.suiteEnd result)
  return result

/-- One cycle of one kernel, with the notices around it. -/
def sampleKernel
    (host : Host m)
    (patience : Nat)
    (suite : Suite m)
    (kernel : Kernel m) :
    ExceptT Halt m (Sample Float) := do
  suite.notify host (.kernelStart kernel.name)
  let timing ← kernel.measure host patience
  let sample : Sample Float := { name := kernel.name, micros := timing.micros }
  suite.notify host (.singleSample sample)
  return sample

/-- Measures every selected kernel for one cycle, without statistics. -/
def measureOnce
    (host : Host m)
    (patience : Nat)
    (suite : Suite m) :
    ExceptT Halt m (List (Sample Float)) :=
  measureEach (suite.sampleKernel host patience) suite.selected

end Suite

end Throughput
