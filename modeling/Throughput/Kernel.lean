import Throughput.Failure

/-!
Contract: the lifecycle of a workload that can be measured.

Owns:
- `Kernel`, a workload by the steps of its cycle, in any monad `m` that holds
  its state and its effects;
- the steps that a kernel has when it does not say otherwise;
- `Kernel.hoist`, which carries a kernel to another monad, and
  `Kernel.forwarded`, which puts one more layer around it.

One cycle is `setup`, some number of `warmup`s, some number of `exercise`s and
`teardown`; after that the kernel starts over with `setup`.
-/

namespace Throughput

/-- How often `exercise` runs the workload, unless a kernel says otherwise. -/
def exerciseRuns : Nat := 10

/-- Does `action` so many times, up to the first failure. -/
def repeatTimes
    {ε : Type}
    {m : Type → Type}
    [Monad m] :
    Nat → ExceptT ε m Unit → ExceptT ε m Unit
  | 0, _ => pure ()
  | count + 1, action => do
    action
    repeatTimes count action

/-- A workload. Only `run` has to be given. The name is a constant, not a method
that may read the state: a workload whose name changes while it runs has no place
here. -/
structure Kernel (m : Type → Type) [Monad m] where
  name : String
  /-- One indivisible unit of work. -/
  run : ExceptT Fault m Unit
  setup : ExceptT Fault m Unit := pure ()
  /-- A step whose duration is thrown away: the workload, once. -/
  warmup : ExceptT Fault m Unit := run
  /-- The measured batch. -/
  exercise : ExceptT Fault m Unit := repeatTimes exerciseRuns run
  teardown : ExceptT Fault m Unit := pure ()

/-- A step of a kernel whose state is a value of type `σ`, as a function of
that state. -/
def stateStep {σ : Type} (step : σ → Except Fault Unit × σ) :
    ExceptT Fault (StateM σ) Unit :=
  ExceptT.mk fun state => step state

/-- An action on a part of a state, as an action on the whole. -/
def focus
    {σ ω β : Type}
    (get : ω → σ)
    (put : σ → ω → ω)
    (action : StateM σ β) :
    StateM ω β := fun whole =>
  let (outcome, part) := action.run (get whole)
  (outcome, put part whole)

namespace Kernel

variable {m n : Type → Type} [Monad m] [Monad n]

/-- The kernel behind one more layer, which passes every step on. -/
def forwarded (kernel : Kernel m) : Kernel m where
  name := kernel.name
  run := kernel.run
  setup := kernel.setup
  warmup := kernel.warmup
  exercise := kernel.exercise
  teardown := kernel.teardown

/-- The kernel with every step carried to another monad. -/
def hoist (lift : {α : Type} → m α → n α) (kernel : Kernel m) : Kernel n where
  name := kernel.name
  run := ExceptT.mk (lift kernel.run.run)
  setup := ExceptT.mk (lift kernel.setup.run)
  warmup := ExceptT.mk (lift kernel.warmup.run)
  exercise := ExceptT.mk (lift kernel.exercise.run)
  teardown := ExceptT.mk (lift kernel.teardown.run)

end Kernel

end Throughput
