import Mathlib.Logic.Function.Basic
import Throughput.Proofs.Trace.Event

/-!
Contract: a world in which every kernel has a state of its own.

Owns:
- `Ensemble`, the states of all registered kernels beside the surroundings,
  which the kernels share with each other and with the host;
- the suite of an ensemble, and its host;
- the theorem that a kernel which a trace does not call keeps its state.

The types of the states may differ from place to place. A kernel may read and
change the surroundings too, for instance let time pass there.
-/

namespace Throughput

/-- The surroundings of a run and the state of the kernel at each place. -/
structure Ensemble (κ : Type) (σ : Nat → Type) where
  surroundings : κ
  states : (place : Nat) → σ place

/-- A host carried to another monad. -/
def Host.hoist {m n : Type → Type} (lift : {α : Type} → m α → n α) (host : Host m) :
    Host n where
  start := lift host.start
  elapsed := lift host.elapsed
  write := fun text => lift (host.write text)
  record := fun entry => lift (host.record entry)
  capture := fun label notice => lift (host.capture label notice)
  dayMillis := lift host.dayMillis
  nanos := lift host.nanos

namespace Ensemble

variable {κ β : Type} {σ : Nat → Type}

/-- An action on the surroundings. -/
def onSurroundings (action : StateM κ β) : StateM (Ensemble κ σ) β :=
  focus surroundings (fun part whole => { whole with surroundings := part }) action

/-- An action of the kernel at a place, on its own state and the surroundings. -/
def onPlace (place : Nat) (action : StateM (σ place × κ) β) : StateM (Ensemble κ σ) β :=
  focus (fun whole => (whole.states place, whole.surroundings))
    (fun part whole => ⟨part.2, Function.update whole.states place part.1⟩) action

/-- The host of an ensemble. -/
def host (host : Host (StateM κ)) : Host (StateM (Ensemble κ σ)) :=
  host.hoist onSurroundings

/-- The kernels of an ensemble, registered in the order of their places. -/
def kernels (kernels : (place : Nat) → Kernel (StateM (σ place × κ))) (count : Nat) :
    List (Kernel (StateM (Ensemble κ σ))) :=
  (List.range count).map fun place => (kernels place).hoist (onPlace place)

variable {surroundings : Host (StateM κ)}
variable {actors : (place : Nat) → Kernel (StateM (σ place × κ))} {count place : Nat}

theorem onSurroundings_states {action : StateM κ β} {before after : Ensemble κ σ} {answer : β}
    (run : (onSurroundings action).run before = (answer, after)) :
    after.states = before.states := by
  cases run
  rfl

theorem onPlace_states {other : Nat} {action : StateM (σ other × κ) β}
    {before after : Ensemble κ σ} {answer : β}
    (run : (onPlace other action).run before = (answer, after)) (different : place ≠ other) :
    after.states place = before.states place := by
  cases run
  exact Function.update_of_ne different _ _

/-- An event changes no state but that of the kernel it calls. -/
theorem states_of_happens {before after : Ensemble κ σ} {event : Trace.Event}
    (happens : Trace.Happens (host surroundings) (kernels actors count) before event after)
    (other : ∀ phase outcome, event ≠ .called place phase outcome) :
    after.states place = before.states place := by
  cases event with
  | called called phase outcome =>
      obtain ⟨kernel, registered, run⟩ := happens
      have different : place ≠ called := by
        rintro rfl
        exact other phase outcome rfl
      obtain ⟨index, isIndex, rfl⟩ : ∃ index, index = called ∧
          kernel = (actors index).hoist (onPlace index) := by
        rw [kernels, List.getElem?_map, Option.map_eq_some_iff] at registered
        obtain ⟨index, inRange, rfl⟩ := registered
        obtain ⟨_, isIndex⟩ := List.getElem?_eq_some_iff.mp inRange
        rw [List.getElem_range] at isIndex
        exact ⟨index, isIndex.symm, rfl⟩
      subst isIndex
      cases phase <;> exact onPlace_states run different
  | _ => exact congrFun (onSurroundings_states happens) place

/-- A kernel that is not called keeps its state. -/
theorem states_of_account {before after : Ensemble κ σ} {trace : Trace}
    (account : Trace.Account (host surroundings) (kernels actors count) before trace after)
    (uncalled : ∀ phase outcome, .called place phase outcome ∉ trace) :
    after.states place = before.states place := by
  refine account.unchanged (fun world => world.states place) fun event member => ?_
  intro earlier later happens
  refine states_of_happens happens fun phase outcome isCall => ?_
  exact uncalled phase outcome (isCall ▸ member)

end Ensemble

end Throughput
