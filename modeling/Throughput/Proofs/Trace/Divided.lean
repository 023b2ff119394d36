import Throughput.Proofs.Lifecycle
import Throughput.Proofs.Paired

/-!
Contract: a world in which measuring and reporting are apart.

Owns:
- `Divided`, a world of two parts, with the host and the suite of such a world:
  kernels and the clock work on one part, and what reporters ask for is carried
  out on the other;
- `Alike`, the relation between two watched runs that have measured the same;
- `Quiet`, an action that measures nothing, and the statement that whatever is
  done for the reporters is quiet.

The parts that are reported to may be of different types in the two runs.
-/

namespace Throughput

/-- A world whose parts for measuring and for reporting are apart. -/
structure Divided (τ κ : Type) where
  measured : τ
  reported : κ

namespace Divided

variable {τ κ κ' β : Type}

def onMeasured (action : StateM τ β) : StateM (Divided τ κ) β :=
  focus measured (fun part whole => { whole with measured := part }) action

def onReported (action : StateM κ β) : StateM (Divided τ κ) β :=
  focus reported (fun part whole => { whole with reported := part }) action

/-- A clock and, for all that reporters ask for, a desk. The clock of the desk
is not looked at. -/
def host (clock : Clock (StateM τ)) (desk : Host (StateM κ)) : Host (StateM (Divided τ κ)) where
  start := onMeasured clock.start
  elapsed := onMeasured clock.elapsed
  write := fun text => onReported (desk.write text)
  record := fun entry => onReported (desk.record entry)
  capture := fun label notice => onReported (desk.capture label notice)
  dayMillis := onReported desk.dayMillis
  nanos := onReported desk.nanos

def kernel (actor : Kernel (StateM τ)) : Kernel (StateM (Divided τ κ)) :=
  actor.hoist onMeasured

def suite (name : String) (settings : Settings) (reporters : List (Reporter Outlet))
    (actors : List (Kernel (StateM τ))) : Suite (StateM (Divided τ κ)) :=
  { name, settings, kernels := actors.map kernel, reporters }

variable {clock : Clock (StateM τ)} {desk : Host (StateM κ)} {desk' : Host (StateM κ')}

/-! ### Runs that have measured the same -/

/-- The measured parts are the same, and so are the steps in the traces. -/
def Alike : Watched (Divided τ κ) → Watched (Divided τ κ') → Prop :=
  WatchedRelated (fun first second => first.measured = second.measured)
    (Option.guard fun event => event.isStep) (Option.guard fun event => event.isStep)

theorem alike_iff {first : Watched (Divided τ κ)} {second : Watched (Divided τ κ')} :
    Alike first second ↔ first.world.measured = second.world.measured ∧
      first.trace.steps = second.trace.steps := by
  unfold Alike WatchedRelated
  rw [List.filterMap_eq_filter]
  rfl

theorem paired_onMeasured {action : StateM τ β} :
    Paired (fun (first : Divided τ κ) (second : Divided τ κ') => first.measured = second.measured)
      Eq (onMeasured action) (onMeasured action) := by
  intro before before' same
  change (action.run before.measured).1 = (action.run before'.measured).1 ∧
    (action.run before.measured).2 = (action.run before'.measured).2
  rw [same]
  exact ⟨rfl, rfl⟩

/-- What is recorded may differ in the two runs, and does not count. -/
theorem paired_onReported {action : StateM κ Unit} {action' : StateM κ' Unit} :
    Paired (fun (first : Divided τ κ) (second : Divided τ κ') => first.measured = second.measured)
      Eq (onReported action) (onReported action') :=
  fun _ _ same => ⟨rfl, same⟩

theorem pairedTiming :
    PairedTiming Alike (host clock desk).watched (host clock desk').watched := by
  apply PairedTiming.watched
  · exact ⟨paired_onMeasured, paired_onMeasured, fun _ => paired_onReported⟩
  · exact fun _ _ => rfl

theorem pairedKernels (actor : Kernel (StateM τ)) (place : Nat) :
    PairedKernels Alike ((kernel actor : Kernel (StateM (Divided τ κ))).watched place)
      ((kernel actor : Kernel (StateM (Divided τ κ'))).watched place) := by
  apply PairedKernels.watched
  · constructor
    · rfl
    · intro phase
      rw [kernel, kernel, Kernel.step_hoist, Kernel.step_hoist]
      exact paired_onMeasured.mono fun _ _ => likewise_eq.mpr
  · exact fun _ _ => rfl

/-! ### Actions that measure nothing -/

/-- An action after which no more has been measured than before. -/
def Quiet (action : StateM (Watched (Divided τ κ)) β) : Prop :=
  ∀ before, Alike (action.run before).2 before

namespace Quiet

variable {α : Type}

theorem pure (answer : β) :
    Quiet (Pure.pure answer : StateM (Watched (Divided τ κ)) β) :=
  fun _ => ⟨rfl, rfl⟩

theorem bind {action : StateM (Watched (Divided τ κ)) α}
    {next : α → StateM (Watched (Divided τ κ)) β} (quiet : Quiet action)
    (onward : ∀ answer, Quiet (next answer)) : Quiet (action >>= next) := by
  intro before
  have first := quiet before
  have second := onward (action.run before).1 (action.run before).2
  exact ⟨second.1.trans first.1, second.2.trans first.2⟩

theorem watch {action : StateM κ β} {event : β → Trace.Event}
    (noStep : ∀ answer, (event answer).isStep = false) :
    Quiet (Throughput.watch event (onReported (τ := τ) action)) := by
  intro before
  rw [alike_iff]
  constructor
  · rfl
  · have steps : Trace.steps [event (action.run before.world.reported).1] = [] := by
      simp [Trace.steps, noStep]
    change (before.trace ++ [event (action.run before.world.reported).1]).steps = _
    rw [Trace.steps_append, steps, List.append_nil]

theorem record (entry : Log.Entry) : Quiet ((host clock desk).watched.record entry) :=
  watch fun _ => rfl

theorem performAll (effects : List Effect) :
    Quiet ((host clock desk).watched.performAll effects) := by
  have performs : ∀ effect, Quiet ((host clock desk).watched.perform effect) := by
    intro effect
    cases effect with
    | print line =>
        apply bind
        · exact watch fun _ => rfl
        · intro refusal
          cases refusal with
          | none => exact pure ()
          | some reason => exact record _
    | record entry => exact record entry
    | capture label notice => exact watch fun _ => rfl
  induction effects with
  | nil => exact pure ()
  | cons first rest inductionHypothesis =>
      exact bind (performs first) fun _ => inductionHypothesis

/-- A quiet action of the first run alone leaves the runs alike. -/
theorem first {action : StateM (Watched (Divided τ κ)) β} (quiet : Quiet action)
    (before : Watched (Divided τ κ)) (before' : Watched (Divided τ κ'))
    (alike : Alike before before') : Alike (action.run before).2 before' :=
  ⟨(quiet before).1.trans alike.1, (quiet before).2.trans alike.2⟩

theorem second {action : StateM (Watched (Divided τ κ')) β} (quiet : Quiet action)
    (before : Watched (Divided τ κ)) (before' : Watched (Divided τ κ'))
    (alike : Alike before before') : Alike before (action.run before').2 :=
  ⟨alike.1.trans (quiet before').1.symm, alike.2.trans (quiet before').2.symm⟩

end Quiet

end Divided

end Throughput
