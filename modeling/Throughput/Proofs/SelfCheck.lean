import Throughput.Proofs.Decimal.Word
import Throughput.Proofs.Resetting

/-!
Contract: the check that the ray tracer makes on its own image.

Owns:
- `Canvas.IsSetUp`, a history with a setup that succeeded;
- the checksum that an instance keeps after any history, and the answer and the
  image of every call that renders;
- the theorem about an instance with an arbitrary history.

The checksum is written by the first setup that succeeds and by nothing else,
and it is the one that every rendering has. A later rendering is compared with
it as a number, and so the check fails for one reason only once there is a
checksum: it is no number, which differs from itself.
-/

namespace Throughput

namespace RayTracing.Canvas

open Rehearsal (Method)

variable {canvas : Canvas} {state : State} {history : List Method} {method : Method}

/-- Some setup among these calls on a fresh instance succeeded. -/
def IsSetUp (canvas : Canvas) (history : List Method) : Prop :=
  ∃ before after, history = before ++ .setup :: after ∧
    (canvas.kernel.setup.run.run (canvas.kernel.stateAfter {} before)).1 = .ok ()

theorem isSetUp_iff :
    canvas.IsSetUp history ↔ .setup ∈ history ∧ 2 ≤ canvas.width ∧ 2 ≤ canvas.height := by
  constructor
  · rintro ⟨before, after, rfl, succeeded⟩
    exact ⟨List.mem_append_right _ List.mem_cons_self, setup_ok_iff.mp succeeded⟩
  · rintro ⟨member, large⟩
    obtain ⟨before, after, rfl⟩ := List.append_of_mem member
    exact ⟨before, after, rfl, setup_ok_iff.mpr large⟩

/-! ### The checksum after a history -/

theorem reference_stateAfter (sound : canvas.Sound state) (calls : List Method) :
    (canvas.kernel.stateAfter state calls).reference =
      if .setup ∈ calls ∧ 2 ≤ canvas.width ∧ 2 ≤ canvas.height then some canvas.reference
      else state.reference := by
  induction calls generalizing state with
  | nil => rfl
  | cons method rest inductionHypothesis =>
      have later := inductionHypothesis (sound_call sound method)
      rw [reference_call sound method] at later
      rw [Kernel.stateAfter, later]
      -- A later setup writes again what the first one wrote.
      grind

theorem reference_of_isSetUp (isSetUp : canvas.IsSetUp history) :
    (canvas.kernel.stateAfter {} history).reference = some canvas.reference := by
  rw [reference_stateAfter sound_fresh history, if_pos (isSetUp_iff.mp isSetUp)]

theorem reference_of_not_isSetUp (notSetUp : ¬ canvas.IsSetUp history) :
    (canvas.kernel.stateAfter {} history).reference = none := by
  rw [reference_stateAfter sound_fresh history, if_neg (mt isSetUp_iff.mpr notSetUp)]

/-! ### Calls that render -/

theorem call_eq_run (renders : method ∈ [Method.run, .warmup, .exercise]) :
    (canvas.kernel.call method).run.run state = canvas.run state := by
  cases method with
  | setup => exact absurd renders (by decide)
  | run => rfl
  | warmup => rfl
  | exercise => exact exercise_eq_run
  | teardown => exact absurd renders (by decide)

theorem run_pixels : (canvas.run state).2.pixels = canvas.image := by
  unfold run
  dsimp only
  split <;> rfl

theorem run_ok_iff :
    (canvas.run state).1 = .ok () ↔ state.reference.any (canvas.reference == ·) = true := by
  unfold run
  dsimp only
  split
  · next agrees => exact iff_of_true rfl agrees
  · next differs => exact iff_of_false nofun differs

theorem run_ok_iff_isSetUp :
    (canvas.run (canvas.kernel.stateAfter {} history)).1 = .ok () ↔
      canvas.IsSetUp history ∧ canvas.reference.isNaN = false := by
  rw [run_ok_iff]
  by_cases isSetUp : canvas.IsSetUp history
  · rw [reference_of_isSetUp isSetUp, Option.any_some, Decimal.beq_self_iff_isNaN,
      and_iff_right isSetUp]
  · rw [reference_of_not_isSetUp isSetUp]
    exact iff_of_false nofun fun both => isSetUp both.1

/-- The check that the ray tracer makes of itself is sound after every history,
whatever was called in whatever order and with whatever outcome. There is no
reference until a setup succeeds, which takes a canvas of two by two; from then
on the reference is the checksum of the image. A call that renders leaves that
image, and it succeeds if and only if there is a reference and the reference is
a number. -/
theorem self_check_sound
    (canvas : Canvas)
    (history : List Method) :
    let rendered := canvas.scene.render canvas.width canvas.height
    let state := canvas.kernel.stateAfter {} history
    (state.reference = none ↔ ¬ canvas.IsSetUp history) ∧
      (state.reference = some (checksum rendered) ↔ canvas.IsSetUp history) ∧
      ((canvas.kernel.setup.run.run state).1 = .ok () ↔ 2 ≤ canvas.width ∧ 2 ≤ canvas.height) ∧
      ∀ method ∈ [Method.run, .warmup, .exercise],
        let called := (canvas.kernel.call method).run.run state
        (called.1 = .ok () ↔ canvas.IsSetUp history ∧ (checksum rendered).isNaN = false) ∧
          called.2.pixels = rendered := by
  intro rendered state
  refine ⟨?_, ?_, setup_ok_iff, ?_⟩
  · by_cases isSetUp : canvas.IsSetUp history
    · have present : state.reference = some canvas.reference := reference_of_isSetUp isSetUp
      rw [present]
      exact iff_of_false nofun (not_not_intro isSetUp)
    · exact iff_of_true (reference_of_not_isSetUp isSetUp) isSetUp
  · by_cases isSetUp : canvas.IsSetUp history
    · exact iff_of_true (reference_of_isSetUp isSetUp) isSetUp
    · have absent : state.reference = none := reference_of_not_isSetUp isSetUp
      rw [absent]
      exact iff_of_false nofun isSetUp
  · intro method renders called
    have isRun : called = canvas.run state := call_eq_run renders
    rw [isRun]
    exact ⟨run_ok_iff_isSetUp, run_pixels⟩

/-- A scene without spheres on the least canvas, after a run that came too early
and a teardown that came before the batch. -/
theorem empty_scene_checks :
    let canvas : Canvas := ⟨{ Scene.standard with spheres := [] }, 2, 2⟩
    .exercise ∈ [Method.run, .warmup, .exercise] ∧
      ((canvas.kernel.call .exercise).run.run
        (canvas.kernel.stateAfter {} [.run, .setup, .teardown])).1 = .ok () := by
  intro canvas
  have renders : .exercise ∈ [Method.run, .warmup, .exercise] := by decide
  have isSetUp : canvas.IsSetUp [.run, .setup, .teardown] :=
    isSetUp_iff.mpr ⟨by decide, by decide, by decide⟩
  have isNumber : (checksum canvas.image).isNaN = false := by decide +kernel
  obtain ⟨-, -, -, calls⟩ := self_check_sound canvas [.run, .setup, .teardown]
  exact ⟨renders, (calls .exercise renders).1.mpr ⟨isSetUp, isNumber⟩⟩

end RayTracing.Canvas

end Throughput
