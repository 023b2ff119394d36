import Throughput.Bundled
import Throughput.Rehearsal.Clock

/-!
Contract: surroundings in which a run is the same every time.

Owns:
- `Stage`, everything that a rehearsed run reads and leaves behind: a stepping
  clock, the states of its kernels, the events, the log and the output;
- `Stage.host`, a stage as the host of a run;
- `Stage.onBundled`, the place of a bundled kernel on a stage.

The time of day stands still at zero.
-/

namespace Throughput.Rehearsal

/-- The methods of a kernel that a script counts. -/
inductive Method where
  | setup
  | run
  | warmup
  | exercise
  | teardown
deriving DecidableEq, Repr

def Method.name : Method → String
  | .setup => "setup"
  | .run => "run"
  | .warmup => "warmup"
  | .exercise => "exercise"
  | .teardown => "teardown"

structure Tally where
  setup : Nat := 0
  run : Nat := 0
  warmup : Nat := 0
  exercise : Nat := 0
  teardown : Nat := 0
deriving DecidableEq, Repr

namespace Tally

def count (tally : Tally) : Method → Nat
  | .setup => tally.setup
  | .run => tally.run
  | .warmup => tally.warmup
  | .exercise => tally.exercise
  | .teardown => tally.teardown

def increment (tally : Tally) : Method → Tally
  | .setup => { tally with setup := tally.setup + 1 }
  | .run => { tally with run := tally.run + 1 }
  | .warmup => { tally with warmup := tally.warmup + 1 }
  | .exercise => { tally with exercise := tally.exercise + 1 }
  | .teardown => { tally with teardown := tally.teardown + 1 }

end Tally

/-- What happens during a rehearsal, in the order in which it happens. -/
inductive Event where
  | clockStarted
  | called (kernel : String) (method : Method)
  | noticed (label : String) (notice : Notice)

/-- The place of one kernel: the calls of a scripted kernel, or the state of a
bundled one. -/
structure Place where
  calls : Tally := {}
  bundled : Bundled.State := {}

/-- Everything that a rehearsed run reads and leaves behind. -/
structure Stage where
  clock : SteppingClock
  places : Array Place := #[]
  events : Array Event := #[]
  log : Array Log.Entry := #[]
  printed : String := ""
  /-- Why the output refuses every text, if it does. -/
  refusal : Option String := none

namespace Stage

/-- The place with a number; every place starts empty. -/
def place (stage : Stage) (number : Nat) : Place :=
  (stage.places[number]?).getD {}

/-- The stage with another state at a place that it has. -/
def setPlace (stage : Stage) (number : Nat) (place : Place) : Stage :=
  { stage with places := stage.places.setIfInBounds number place }

def addPlace (stage : Stage) : Stage :=
  { stage with places := stage.places.push {} }

def happened (stage : Stage) (event : Event) : Stage :=
  { stage with events := stage.events.push event }

/-- Writes to the output, unless it refuses. -/
def write (stage : Stage) (text : String) : Option String × Stage :=
  match stage.refusal with
  | some reason => (some reason, stage)
  | none => (none, { stage with printed := stage.printed ++ text })

/-- The stage with nothing left behind on it yet. -/
def cleared (stage : Stage) : Stage :=
  { stage with events := #[], log := #[], printed := "" }

/-- A stage as the host of a run. -/
def host : Host (StateM Stage) where
  start := modify fun stage =>
    { stage with clock := stage.clock.restart }.happened .clockStarted
  elapsed := modifyGet fun stage =>
    let (elapsed, clock) := stage.clock.look
    (elapsed, { stage with clock })
  write := fun text => modifyGet fun stage => stage.write text
  record := fun entry => modify fun stage => { stage with log := stage.log.push entry }
  capture := fun label notice => modify fun stage => stage.happened (.noticed label notice)
  dayMillis := pure 0
  nanos := pure 0

/-- An action of a bundled kernel, at a place. -/
def onBundled {β : Type} (number : Nat) (action : StateM Bundled.State β) :
    StateM Stage β :=
  focus
    (fun stage => (stage.place number).bundled)
    (fun bundled stage =>
      stage.setPlace number { stage.place number with bundled })
    action

end Stage

end Throughput.Rehearsal
