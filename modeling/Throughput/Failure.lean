/-!
Contract: everything that can stop a measurement, and its wording.

Owns:
- `Phase`, the step of a kernel's cycle in which something failed;
- `Fault`, what a kernel reports: a text with the texts of what caused it;
- `Failure`, the ways in which measuring or summarizing fails, with
  `Failure.message` and the chain of causes behind it.
-/

namespace Throughput

/-- The steps of a kernel's cycle. -/
inductive Phase where
  | setup
  | warmup
  | exercise
  | teardown
deriving DecidableEq, Repr

def Phase.name : Phase → String
  | .setup => "setup"
  | .warmup => "warmup"
  | .exercise => "exercise"
  | .teardown => "teardown"

/-- A failure that a kernel reports: its outermost text, and the texts of its
causes from the nearest to the first. -/
structure Fault where
  message : String
  causes : List String
deriving DecidableEq, Repr

namespace Fault

def ofMessage (message : String) : Fault :=
  ⟨message, []⟩

/-- The same failure seen from outside, under a text of its own. -/
def inContext (fault : Fault) (context : String) : Fault :=
  ⟨context, fault.message :: fault.causes⟩

/-- All texts, outermost first. -/
def chain (fault : Fault) : List String :=
  fault.message :: fault.causes

end Fault

/-- The ways in which a measurement or its evaluation fails. -/
inductive Failure where
  /-- A step of a kernel's cycle failed; the run is given up. -/
  | kernel (name : String) (phase : Phase) (fault : Fault)
  /-- A measurement was asked to last no time at all. -/
  | invalidMinimum (milliseconds : Nat)
  /-- Statistics of no samples were asked for. -/
  | emptySampleSet
  /-- The repeated work of a measurement failed. -/
  | work (fault : Fault)
deriving DecidableEq, Repr

namespace Failure

def message : Failure → String
  | .kernel name phase fault =>
    "kernel '" ++ name ++ "' failed during " ++ phase.name ++ ": " ++ fault.message
  | .invalidMinimum milliseconds =>
    "minimum duration must be positive, got " ++ toString milliseconds ++ "ms"
  | .emptySampleSet => "cannot summarize an empty sample set"
  | .work fault => "unit of work failed: " ++ fault.message

/-- The texts of what caused a failure, outermost first. -/
def causes : Failure → List String
  | .kernel _ _ fault => fault.chain
  | .work fault => fault.chain
  | .invalidMinimum _ => []
  | .emptySampleSet => []

def phase? : Failure → Option Phase
  | .kernel _ phase _ => some phase
  | _ => none

/-- Names the kernel and the step behind a failure of repeated work. Other
failures already say what they mean. -/
def inPhase (name : String) (phase : Phase) : Failure → Failure
  | .work fault => .kernel name phase fault
  | other => other

end Failure

end Throughput
