import Throughput.Rehearsal.Stage

/-!
Contract: kernels that do nothing but follow a script.

Owns:
- `Script`, which says how much time each call of a method takes and which
  calls fail;
- `Script.call`, one scripted call on a stage;
- `Script.kernel`, the kernel that makes these calls.
-/

namespace Throughput.Rehearsal

/-- A call that fails: the `nth` of a method, counted from one. -/
structure PlannedFault where
  method : Method
  nth : Nat
  fault : Fault
deriving DecidableEq, Repr

/-- Which methods of a kernel are scripted. The others are those of a kernel
that does not say otherwise. -/
inductive Coverage where
  /-- Only `run`. -/
  | minimal
  /-- `setup`, `run` and `teardown`. -/
  | standard
  /-- All five. A warmup and an exercise make their own call first and then
  run the workload. -/
  | custom
deriving DecidableEq, Repr

/-- What a scripted kernel does. -/
structure Script where
  coverage : Coverage
  name : String
  /-- How much time the calls of a method take, over and over. -/
  costs : Method → List Nat
  faults : List PlannedFault
  /-- How often a warmup of full coverage runs the workload. -/
  warmupRuns : Nat
  /-- How often an exercise of full coverage runs the workload. -/
  exerciseRuns : Nat

namespace Script

/-- The fault that is planned for a call. -/
def plannedFault (script : Script) (method : Method) (count : Nat) : Option Fault :=
  (script.faults.find? fun planned =>
    planned.method = method ∧ planned.nth = count).map (·.fault)

/-- One call of a method by the kernel at a place: it is counted, it shows
among the events, it takes its time, and it fails if that is planned. -/
def call (script : Script) (number : Nat) (method : Method) :
    ExceptT Fault (StateM Stage) Unit :=
  stateStep fun stage =>
    let place := stage.place number
    let calls := place.calls.increment method
    let count := calls.count method
    let duration := cyclic (script.costs method) (count - 1)
    let counted := stage.setPlace number { place with calls }
    let noted := counted.happened (.called script.name method)
    let outcome :=
      match script.plannedFault method count with
      | some fault => .error fault
      | none => .ok ()
    (outcome, { noted with clock := noted.clock.spend duration })

/-- A call of a method, and then so many runs of the workload. -/
def callAndRun (script : Script) (number : Nat) (method : Method) (runs : Nat) :
    ExceptT Fault (StateM Stage) Unit := do
  script.call number method
  repeatTimes runs (script.call number .run)

/-- The kernel of a script, at a place. -/
def kernel (script : Script) (number : Nat) : Kernel (StateM Stage) :=
  match script.coverage with
  | .minimal => {
      name := script.name
      run := script.call number .run }
  | .standard => {
      name := script.name
      setup := script.call number .setup
      run := script.call number .run
      teardown := script.call number .teardown }
  | .custom => {
      name := script.name
      setup := script.call number .setup
      run := script.call number .run
      warmup := script.callAndRun number .warmup script.warmupRuns
      exercise := script.callAndRun number .exercise script.exerciseRuns
      teardown := script.call number .teardown }

end Script

end Throughput.Rehearsal
