import Throughput.Suite

/-!
Contract: what can be seen of a run from outside.

Owns:
- `Trace.Event`, one call of a kernel's step or one use of the surroundings,
  together with its answer, and `Trace`, the events in order;
- `Watched`, a world with the trace so far, and the host, the kernels and the
  suite that write down what they do;
- `Trace.Account`, the relation that makes a trace a true one: every event is
  a step that the host or the kernel takes in the world where it happens, and
  nothing else changes the world.

The world is any type. Kernels and surroundings are arbitrary functions on it,
so they may share state, and a kernel may let time pass.
-/

namespace Throughput

variable {ω β : Type}

/-- The step of a kernel that belongs to a phase of the cycle. -/
def Kernel.step {m : Type → Type} [Monad m] (kernel : Kernel m) :
    Phase → ExceptT Fault m Unit
  | .setup => kernel.setup
  | .warmup => kernel.warmup
  | .exercise => kernel.exercise
  | .teardown => kernel.teardown

theorem Kernel.step_hoist {m n : Type → Type} [Monad m] [Monad n]
    (lift : {α : Type} → m α → n α) (kernel : Kernel m) (phase : Phase) :
    ((kernel.hoist lift).step phase).run = lift (kernel.step phase).run := by
  cases phase <;> rfl

namespace Trace

/-- What can be seen of a run: each use of the surroundings and each call of a
kernel, with its answer. -/
inductive Event where
  | started
  /-- A look at the clock showed so many milliseconds. -/
  | looked (elapsed : Nat)
  /-- The kernel registered at a place was called, and answered. -/
  | called (place : Nat) (phase : Phase) (outcome : Except Fault Unit)
  /-- A text was written to the output, or refused with a reason. -/
  | wrote (text : String) (refusal : Option String)
  | recorded (entry : Log.Entry)
  | captured (label : String) (notice : Notice)
  | dayRead (millis : Nat)
  | nanosRead (nanos : Nat)

end Trace

/-- Events in the order in which they happen. -/
abbrev Trace := List Trace.Event

/-- A world together with what has been seen in it so far. -/
structure Watched (ω : Type) where
  world : ω
  trace : Trace

/-- An action that shows as the event which its answer makes. -/
def watch (event : β → Trace.Event) (action : StateM ω β) :
    StateM (Watched ω) β := fun before =>
  let (answer, world) := action.run before.world
  (answer, ⟨world, before.trace ++ [event answer]⟩)

def unseen (action : StateM ω β) : StateM (Watched ω) β := fun before =>
  let (answer, world) := action.run before.world
  (answer, ⟨world, before.trace⟩)

def Host.watched (host : Host (StateM ω)) : Host (StateM (Watched ω)) where
  start := watch (fun _ => .started) host.start
  elapsed := watch .looked host.elapsed
  write := fun text => watch (.wrote text) (host.write text)
  record := fun entry => watch (fun _ => .recorded entry) (host.record entry)
  capture := fun label notice =>
    watch (fun _ => .captured label notice) (host.capture label notice)
  dayMillis := watch .dayRead host.dayMillis
  nanos := watch .nanosRead host.nanos

/-- The kernel that shows each call of a phase under its place in the list of
kernels. What a phase does inside does not show. -/
def Kernel.watched (place : Nat) (kernel : Kernel (StateM ω)) :
    Kernel (StateM (Watched ω)) where
  name := kernel.name
  run := ExceptT.mk (unseen kernel.run.run)
  setup := ExceptT.mk (watch (.called place .setup) kernel.setup.run)
  warmup := ExceptT.mk (watch (.called place .warmup) kernel.warmup.run)
  exercise := ExceptT.mk (watch (.called place .exercise) kernel.exercise.run)
  teardown := ExceptT.mk (watch (.called place .teardown) kernel.teardown.run)

/-- The suite whose kernels show under the places at which they are
registered. -/
def Suite.watched (suite : Suite (StateM ω)) : Suite (StateM (Watched ω)) where
  name := suite.name
  settings := suite.settings
  kernels := suite.kernels.zipIdx.map fun entry => entry.1.watched entry.2
  reporters := suite.reporters

namespace Trace

variable {host : Host (StateM ω)} {kernels : List (Kernel (StateM ω))}

/-- An event is a step of the host, or of the kernel at its place, that leads
from one world to another with the answer that the event shows. -/
def Happens (host : Host (StateM ω)) (kernels : List (Kernel (StateM ω)))
    (before : ω) : Event → ω → Prop
  | .started, after => host.start.run before = ((), after)
  | .looked elapsed, after => host.elapsed.run before = (elapsed, after)
  | .called place phase outcome, after =>
    ∃ kernel, kernels[place]? = some kernel ∧
      (kernel.step phase).run.run before = (outcome, after)
  | .wrote text refusal, after => (host.write text).run before = (refusal, after)
  | .recorded entry, after => (host.record entry).run before = ((), after)
  | .captured label notice, after =>
    (host.capture label notice).run before = ((), after)
  | .dayRead millis, after => host.dayMillis.run before = (millis, after)
  | .nanosRead nanos, after => host.nanos.run before = (nanos, after)

/-- A trace accounts for the way from one world to another. -/
inductive Account (host : Host (StateM ω)) (kernels : List (Kernel (StateM ω))) :
    ω → Trace → ω → Prop where
  | nil (world : ω) : Account host kernels world [] world
  | cons {before between after : ω} {event : Event} {rest : Trace}
      (happens : Happens host kernels before event between)
      (account : Account host kernels between rest after) :
      Account host kernels before (event :: rest) after

namespace Account

theorem single {before after : ω} {event : Event}
    (happens : Happens host kernels before event after) :
    Account host kernels before [event] after :=
  .cons happens (.nil after)

/-- Accounts of successive stretches make one account. -/
theorem append {before between after : ω} {first second : Trace}
    (firstAccount : Account host kernels before first between)
    (secondAccount : Account host kernels between second after) :
    Account host kernels before (first ++ second) after := by
  induction firstAccount with
  | nil => exact secondAccount
  | cons happens _ inductionHypothesis =>
      exact .cons happens (inductionHypothesis secondAccount)

theorem exists_happens {before after : ω} {trace : Trace} {event : Event}
    (account : Account host kernels before trace after) (member : event ∈ trace) :
    ∃ earlier later, Happens host kernels earlier event later := by
  induction account with
  | nil => cases member
  | cons happens _ inductionHypothesis =>
      rcases List.mem_cons.mp member with rfl | isLater
      · exact ⟨_, _, happens⟩
      · exact inductionHypothesis isLater

/-- What no event of a trace changes is the same at its end. -/
theorem unchanged {σ : Type} (view : ω → σ) {before after : ω} {trace : Trace}
    (account : Account host kernels before trace after)
    (keeps : ∀ event ∈ trace, ∀ {earlier later},
      Happens host kernels earlier event later → view later = view earlier) :
    view after = view before := by
  induction account with
  | nil => rfl
  | cons happens _ inductionHypothesis =>
      have restKeeps := inductionHypothesis fun event member =>
        keeps event (List.mem_cons_of_mem _ member)
      exact restKeeps.trans (keeps _ (List.mem_cons_self ..) happens)

end Account

end Trace

end Throughput
