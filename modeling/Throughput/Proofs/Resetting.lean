import Throughput.Bundled
import Throughput.Proofs.Repeated
import Throughput.Rehearsal.Stage

/-!
Contract: a setup leaves nothing of what a bundled kernel did before.

Owns:
- `Kernel.call`, a kernel by its methods, with the state that calls leave and
  what they show: every answer, and the state after it;
- `Kernel.Resets`, the property that calls after a setup show the same whatever
  was called before it;
- the theorem that the three bundled kernels have this property.

The prime search and the particle motion start over with a fresh state. The
ray tracer does not: it keeps the checksum of its first image and renders none
at the next setup. What it keeps is what a fresh setup would compute, and the
image that is missing is rendered by the first call that looks at it.
-/

namespace Throughput

open Rehearsal (Method)

variable {σ : Type}

namespace Kernel

def call {m : Type → Type} [Monad m] (kernel : Kernel m) : Method → ExceptT Fault m Unit
  | .setup => kernel.setup
  | .run => kernel.run
  | .warmup => kernel.warmup
  | .exercise => kernel.exercise
  | .teardown => kernel.teardown

/-- The state that calls leave, whether they fail or not. -/
def stateAfter (kernel : Kernel (StateM σ)) (state : σ) : List Method → σ
  | [] => state
  | method :: rest => kernel.stateAfter ((kernel.call method).run.run state).2 rest

/-- What calls show: the answer of each, and the state after it. -/
def shown (kernel : Kernel (StateM σ)) (state : σ) : List Method → List (Except Fault Unit × σ)
  | [] => []
  | method :: rest =>
    let called := (kernel.call method).run.run state
    called :: kernel.shown called.2 rest

/-- A setup succeeds on an instance with any history, and the calls after it
show what they show on a fresh instance that is set up. -/
def Resets (kernel : Kernel (StateM σ)) (fresh : σ) : Prop :=
  ∀ history calls : List Method,
    let used := kernel.setup.run.run (kernel.stateAfter fresh history)
    let unused := kernel.setup.run.run fresh
    used.1 = .ok () ∧ unused.1 = .ok () ∧
      kernel.shown used.2 calls = kernel.shown unused.2 calls

variable {kernel : Kernel (StateM σ)} {first second fresh : σ}

/-- States on which every method does the same cannot be told apart. -/
theorem shown_congr
    (same : ∀ method, (kernel.call method).run.run first = (kernel.call method).run.run second)
    (calls : List Method) : kernel.shown first calls = kernel.shown second calls := by
  cases calls with
  | nil => rfl
  | cons method rest =>
      unfold shown
      rw [same method]

theorem stateAfter_keeps {invariant : σ → Prop}
    (keeps : ∀ method {state}, invariant state →
      invariant ((kernel.call method).run.run state).2)
    (calls : List Method) {state : σ} (holds : invariant state) :
    invariant (kernel.stateAfter state calls) := by
  induction calls generalizing state with
  | nil => exact holds
  | cons method rest inductionHypothesis =>
      unfold stateAfter
      apply inductionHypothesis
      exact keeps method holds

/-- A setup that leads to one state from everywhere resets its kernel. -/
theorem resets_of_setup_const (ready : σ)
    (const : ∀ state, kernel.setup.run.run state = (.ok (), ready)) : kernel.Resets fresh := by
  intro history calls used unused
  have usedReady : used = (.ok (), ready) := const _
  have unusedReady : unused = (.ok (), ready) := const _
  rw [usedReady, unusedReady]
  exact ⟨rfl, rfl, rfl⟩

/-- A setup resets its kernel if every state with a history keeps an invariant
and the methods do the same on all states that a setup makes of such. -/
theorem resets_of_invariant (invariant ready : σ → Prop)
    (start : invariant fresh)
    (keeps : ∀ method {state}, invariant state →
      invariant ((kernel.call method).run.run state).2)
    (setUp : ∀ {state}, invariant state →
      (kernel.setup.run.run state).1 = .ok () ∧ ready (kernel.setup.run.run state).2)
    (alike : ∀ method {first second}, ready first → ready second →
      (kernel.call method).run.run first = (kernel.call method).run.run second) :
    kernel.Resets fresh := by
  intro history calls used unused
  have kept : invariant (kernel.stateAfter fresh history) := stateAfter_keeps keeps history start
  obtain ⟨usedOk, usedReady⟩ := setUp kept
  obtain ⟨unusedOk, unusedReady⟩ := setUp start
  refine ⟨usedOk, unusedOk, ?_⟩
  apply shown_congr
  intro method
  exact alike method usedReady unusedReady

end Kernel

/-! ### The bundled kernels -/

namespace Primes

theorem Target.resets {target : Target} (counted : 1 ≤ target.nth) :
    target.kernel.Resets {} := by
  have notZero : target.nth ≠ 0 := by
    intro isZero
    rw [isZero] at counted
    exact absurd counted (by decide)
  apply Kernel.resets_of_setup_const { found := 0 }
  intro state
  change target.setup state = _
  unfold Target.setup
  rw [if_neg notZero]

end Primes

namespace Particles

theorem Shape.resets (shape : Shape) : shape.kernel.Resets [] :=
  Kernel.resets_of_setup_const (layout shape.count) fun _ => rfl

end Particles

namespace RayTracing.Canvas

variable {canvas : Canvas} {state first second : State}

/-- The checksum that every image of a canvas has. -/
def reference (canvas : Canvas) : Float :=
  checksum canvas.image

/-- What holds of an instance with any history: a checksum that is kept is the
one that a fresh setup would compute. -/
def Sound (canvas : Canvas) (state : State) : Prop :=
  ∀ kept, state.reference = some kept → kept = canvas.reference

theorem sound_fresh : canvas.Sound {} :=
  nofun

theorem setup_ok_iff :
    (canvas.setup state).1 = .ok () ↔ 2 ≤ canvas.width ∧ 2 ≤ canvas.height := by
  unfold setup
  by_cases large : 2 ≤ canvas.width ∧ 2 ≤ canvas.height
  · rw [if_pos large]
    cases state.reference <;> exact iff_of_true rfl large
  · rw [if_neg large]
    exact iff_of_false nofun large

theorem run_reference : (canvas.run state).2.reference = state.reference := by
  unfold run
  dsimp only
  split <;> rfl

/-- The image that is there has no influence on a run. -/
theorem run_congr (same : first.reference = second.reference) :
    canvas.run first = canvas.run second := by
  unfold run
  rw [same]

theorem exercise_eq_run : canvas.kernel.exercise.run.run state = canvas.run state := by
  have again : canvas.kernel.run.run.run (canvas.kernel.run.run.run state).2 =
      canvas.kernel.run.run.run state := run_congr run_reference
  exact repeatTimes_of_again again 9

/-- Only a setup writes the checksum, and what it leaves there is the one that a
fresh setup would compute. -/
theorem reference_call (sound : canvas.Sound state) (method : Method) :
    ((canvas.kernel.call method).run.run state).2.reference =
      if method = .setup ∧ 2 ≤ canvas.width ∧ 2 ≤ canvas.height then some canvas.reference
      else state.reference := by
  cases method with
  | setup =>
      change (canvas.setup state).2.reference = _
      unfold setup
      by_cases large : 2 ≤ canvas.width ∧ 2 ≤ canvas.height
      · rw [if_pos large, if_pos ⟨rfl, large⟩]
        cases known : state.reference with
        | none => rfl
        | some kept => exact congrArg some (sound kept known)
      · rw [if_neg large, if_neg fun both => large both.2]
  | run => exact run_reference
  | warmup => exact run_reference
  | exercise =>
      change (canvas.kernel.exercise.run.run state).2.reference = _
      rw [exercise_eq_run]
      exact run_reference
  | teardown => rfl

theorem sound_call (sound : canvas.Sound state) (method : Method) :
    canvas.Sound ((canvas.kernel.call method).run.run state).2 := by
  intro kept known
  rw [reference_call sound method] at known
  split at known
  · exact (Option.some.inj known).symm
  · exact sound kept known

/-- The image that is there has no influence: on states with one checksum,
every method does the same. -/
theorem call_congr (wide : 2 ≤ canvas.width) (high : 2 ≤ canvas.height) (method : Method)
    (isFirst : first.reference = some canvas.reference)
    (isSecond : second.reference = some canvas.reference) :
    (canvas.kernel.call method).run.run first = (canvas.kernel.call method).run.run second := by
  have large : 2 ≤ canvas.width ∧ 2 ≤ canvas.height := ⟨wide, high⟩
  have runs : canvas.kernel.run.run.run first = canvas.kernel.run.run.run second :=
    run_congr (isFirst.trans isSecond.symm)
  cases method with
  | setup =>
      change canvas.setup first = canvas.setup second
      unfold setup
      rw [if_pos large, if_pos large, isFirst, isSecond]
  | run => exact runs
  | warmup => exact runs
  | exercise => exact repeatTimes_congr runs 9
  | teardown =>
      change teardown first = teardown second
      unfold teardown
      rw [isFirst, isSecond]

theorem resets (wide : 2 ≤ canvas.width) (high : 2 ≤ canvas.height) :
    canvas.kernel.Resets {} := by
  apply Kernel.resets_of_invariant canvas.Sound
    fun state => state.reference = some canvas.reference
  · exact sound_fresh
  · intro method state sound
    exact sound_call sound method
  · intro state sound
    have left := reference_call sound .setup
    rw [if_pos ⟨rfl, wide, high⟩] at left
    exact ⟨setup_ok_iff.mpr ⟨wide, high⟩, left⟩
  · intro method first second isFirst isSecond
    exact call_congr wide high method isFirst isSecond

end RayTracing.Canvas

namespace Bundled

/-- A setup resets a bundled kernel completely. Whatever was called before it,
in whatever order and with whatever outcome, the setup succeeds, and the calls
after it give the answers, with all their texts, and leave the states that they
give and leave on an instance that was never called before. -/
theorem setup_forgets_history
    (target : Primes.Target)
    (shape : Particles.Shape)
    (canvas : RayTracing.Canvas)
    (counted : 1 ≤ target.nth)
    (wide : 2 ≤ canvas.width)
    (high : 2 ≤ canvas.height) :
    target.kernel.Resets {} ∧ shape.kernel.Resets [] ∧ canvas.kernel.Resets {} :=
  ⟨Primes.Target.resets counted, shape.resets, RayTracing.Canvas.resets wide high⟩

/-- The kernels of the bundled suite. -/
theorem standard_kernels_forget :
    (1 ≤ Primes.Target.standard.nth ∧ 2 ≤ RayTracing.Canvas.standard.width ∧
      2 ≤ RayTracing.Canvas.standard.height) ∧
    Primes.Target.standard.kernel.Resets {} ∧ Particles.Shape.standard.kernel.Resets [] ∧
      RayTracing.Canvas.standard.kernel.Resets {} := by
  have counted : 1 ≤ Primes.Target.standard.nth := by decide
  have wide : 2 ≤ RayTracing.Canvas.standard.width := by decide
  have high : 2 ≤ RayTracing.Canvas.standard.height := by decide
  exact ⟨⟨counted, wide, high⟩, setup_forgets_history _ _ _ counted wide high⟩

end Bundled

end Throughput
