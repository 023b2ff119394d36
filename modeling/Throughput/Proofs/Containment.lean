import Throughput.Particles
import Throughput.Proofs.Exact

/-!
Contract: no particle leaves the box in exact arithmetic.

Owns:
- `Motion.Inside`, a position within the box, and the step that keeps it: a
  motion that crosses the box no more than once in a step is back in the box
  after one reflection;
- `Motion.Level` and `Motion.Upright`, the invariants of the two axes, from
  the layout through every step;
- `Call`, what is called of the kernel after a setup, and the theorem about
  every sequence of calls.

The speed along the upright axis is bounded only together with the height:
gravity adds speed in every step, and a bounce off the floor can leave more
energy than there was. What every step keeps is a bound on the energy.
-/

namespace Throughput.Particles

section Constants

variable [Elementary]

theorem gravity_eq : (gravity : ℝ) = -(981 / 100) := by
  change -(9.81 : ℝ) = _
  norm_num

theorem restitution_eq : (restitution : ℝ) = 9 / 10 := by
  change (0.9 : ℝ) = _
  norm_num

theorem timeStep_eq : (timeStep : ℝ) = 1 / 120 := by
  change (1.0 / 120.0 : ℝ) = _
  norm_num

theorem boxSize_eq : (boxSize : ℝ) = 10 := by
  change (10.0 : ℝ) = _
  norm_num

end Constants

namespace Motion

variable [Elementary] {motion : Motion ℝ}

/-- The position is within the box. -/
def Inside (motion : Motion ℝ) : Prop :=
  0 ≤ motion.position ∧ motion.position ≤ boxSize

theorem isContained_iff : motion.isContained = true ↔ motion.Inside := by
  change (true && (decide ((0.0 : ℝ) ≤ motion.position) && decide (motion.position ≤ boxSize))) =
    true ↔ _
  rw [Bool.true_and, Bool.and_eq_true, decide_eq_true_iff, decide_eq_true_iff]
  norm_num [Inside]

/-- Where a step leads if there are no walls. -/
noncomputable def ahead (motion : Motion ℝ) : ℝ :=
  motion.position + motion.velocity / 120

theorem ahead_eq : motion.position + motion.velocity * timeStep = motion.ahead := by
  rw [timeStep_eq, ahead]
  ring

/-- A step past the floor, past the far wall, or past neither. -/
theorem advance_cases (motion : Motion ℝ) :
    (motion.ahead < 0 ∧ motion.advance = ⟨-motion.ahead, -motion.velocity * (9 / 10)⟩) ∨
    (10 < motion.ahead ∧
      motion.advance = ⟨20 - motion.ahead, -motion.velocity * (9 / 10)⟩) ∨
    ((0 ≤ motion.ahead ∧ motion.ahead ≤ 10) ∧
      motion.advance = ⟨motion.ahead, motion.velocity⟩) := by
  have zero : (0.0 : ℝ) = 0 := by norm_num
  have twice : (2.0 * boxSize : ℝ) = 20 := by
    rw [boxSize_eq]
    norm_num
  rw [← zero, ← restitution_eq, ← twice, ← boxSize_eq, ← ahead_eq]
  by_cases below : motion.position + motion.velocity * timeStep < 0.0
  · exact .inl ⟨below, if_pos below⟩
  · refine .inr ?_
    have notBelow : motion.advance = _ := if_neg below
    by_cases above : boxSize < motion.position + motion.velocity * timeStep
    · exact .inl ⟨above, notBelow.trans (if_pos above)⟩
    · exact .inr ⟨⟨not_lt.mp below, not_lt.mp above⟩, notBelow.trans (if_neg above)⟩

/-- A motion that crosses the box at most once in a step stays within it. -/
theorem inside_advance (inside : motion.Inside) (slow : |motion.velocity| ≤ 1200) :
    motion.advance.Inside := by
  obtain ⟨nonneg, within⟩ := inside
  rw [boxSize_eq] at within
  obtain ⟨notBack, notFar⟩ := abs_le.mp slow
  rw [Inside, boxSize_eq]
  obtain ⟨below, step⟩ | ⟨above, step⟩ | ⟨between, step⟩ := motion.advance_cases
  · rw [step]
    dsimp only [ahead] at below ⊢
    constructor <;> linarith
  · rw [step]
    dsimp only [ahead] at above ⊢
    constructor <;> linarith
  · rw [step]
    exact between

theorem abs_velocity_advance_le (motion : Motion ℝ) :
    |motion.advance.velocity| ≤ |motion.velocity| := by
  have turned : |-motion.velocity * (9 / 10)| ≤ |motion.velocity| := by
    rw [abs_mul, abs_neg, abs_of_pos (by norm_num : (0 : ℝ) < 9 / 10)]
    linarith [abs_nonneg motion.velocity]
  obtain ⟨-, step⟩ | ⟨-, step⟩ | ⟨-, step⟩ := motion.advance_cases
  · rw [step]
    exact turned
  · rw [step]
    exact turned
  · rw [step]

/-! ### The level axis -/

/-- What holds of the motion along the level axis: there is no force, so the
speed is never more than at the start. -/
def Level (motion : Motion ℝ) : Prop :=
  motion.Inside ∧ |motion.velocity| ≤ 3

theorem level_advance (level : motion.Level) : motion.advance.Level := by
  obtain ⟨inside, slow⟩ := level
  have crossesOnce : |motion.velocity| ≤ 1200 := by linarith
  exact ⟨inside_advance inside crossesOnce, motion.abs_velocity_advance_le.trans slow⟩

/-! ### The upright axis -/

/-- The energy of a particle of unit mass. -/
noncomputable def energy (motion : Motion ℝ) : ℝ :=
  motion.velocity ^ 2 / 2 + 981 / 100 * motion.position

/-- What holds of the motion along the upright axis. The bound is the energy
at the top of the box with the speed of the layout. -/
def Upright (motion : Motion ℝ) : Prop :=
  motion.Inside ∧ motion.energy ≤ 513 / 5

theorem Level.upright (level : motion.Level) : motion.Upright := by
  obtain ⟨inside, slow⟩ := level
  refine ⟨inside, ?_⟩
  have square : motion.velocity ^ 2 ≤ 3 ^ 2 := sq_le_sq' (abs_le.mp slow).1 (abs_le.mp slow).2
  have within := inside.2
  rw [boxSize_eq] at within
  rw [energy]
  linarith

/-- The motion after gravity has changed its speed for the length of a step. -/
noncomputable def pulled (motion : Motion ℝ) : Motion ℝ :=
  ⟨motion.position, motion.velocity + gravity * timeStep⟩

theorem pulled_velocity : motion.pulled.velocity = motion.velocity - 327 / 4000 := by
  rw [pulled, gravity_eq, timeStep_eq]
  ring

/-- No particle within the bound is faster than fifteen. -/
theorem Upright.abs_velocity_le (upright : motion.Upright) : |motion.velocity| ≤ 15 := by
  obtain ⟨⟨nonneg, -⟩, bounded⟩ := upright
  rw [energy] at bounded
  refine abs_le_of_sq_le_sq ?_ (by norm_num)
  linarith

theorem Upright.abs_pulled_velocity_le (upright : motion.Upright) :
    |motion.pulled.velocity| ≤ 31 / 2 := by
  have slow := abs_le.mp upright.abs_velocity_le
  rw [pulled_velocity, abs_le]
  constructor <;> linarith

/-- Free flight loses energy: the speed that gravity takes is gone for the
whole of the step. -/
theorem energy_flight_le (motion : Motion ℝ) :
    energy ⟨motion.pulled.ahead, motion.pulled.velocity⟩ ≤ motion.energy := by
  simp only [energy, ahead, pulled_velocity]
  dsimp only [pulled]
  linarith

/-- A bounce off the floor leaves less energy than the bound, though it may
leave more than there was. -/
theorem Upright.energy_floor_le (upright : motion.Upright) :
    energy ⟨-motion.pulled.ahead, -motion.pulled.velocity * (9 / 10)⟩ ≤ 513 / 5 := by
  have nonneg : 0 ≤ motion.pulled.position := upright.1.1
  have fast := upright.abs_pulled_velocity_le
  have square : motion.pulled.velocity ^ 2 ≤ (31 / 2) ^ 2 :=
    sq_le_sq' (abs_le.mp fast).1 (abs_le.mp fast).2
  have depth : -motion.pulled.velocity ≤ 31 / 2 := neg_le.mp (abs_le.mp fast).1
  simp only [energy, ahead]
  linarith

omit [Elementary] in
/-- A bounce off the ceiling leaves no more energy than the flight past it. -/
theorem energy_ceiling_le (above : 10 < motion.ahead) :
    energy ⟨20 - motion.ahead, -motion.velocity * (9 / 10)⟩ ≤
      energy ⟨motion.ahead, motion.velocity⟩ := by
  have slower : (-motion.velocity * (9 / 10)) ^ 2 ≤ motion.velocity ^ 2 := by
    nlinarith [sq_nonneg motion.velocity]
  simp only [energy]
  linarith

theorem upright_advance (upright : motion.Upright) : motion.pulled.advance.Upright := by
  have fast := upright.abs_pulled_velocity_le
  have crossesOnce : |motion.pulled.velocity| ≤ 1200 := by linarith
  refine ⟨inside_advance upright.1 crossesOnce, ?_⟩
  have flight := motion.energy_flight_le.trans upright.2
  obtain ⟨-, step⟩ | ⟨above, step⟩ | ⟨-, step⟩ := motion.pulled.advance_cases
  · rw [step]
    exact upright.energy_floor_le
  · rw [step]
    exact (energy_ceiling_le above).trans flight
  · rw [step]
    exact flight

end Motion

/-! ### Particles -/

namespace Particle

variable [Elementary] {particle : Particle ℝ}

/-- What holds of a particle in every state that the workload reaches. -/
def Bound (particle : Particle ℝ) : Prop :=
  particle.level.Level ∧ particle.upright.Upright

theorem bound_advance (bound : particle.Bound) : particle.advance.Bound :=
  ⟨Motion.level_advance bound.1, Motion.upright_advance bound.2⟩

theorem isContained_of_bound (bound : particle.Bound) : particle.isContained = true := by
  rw [isContained, Motion.isContained_iff.mpr bound.1.1, Motion.isContained_iff.mpr bound.2.1]
  rfl

private theorem inside_spread {place : ℝ} (nonneg : 0 ≤ place) (velocity : ℝ) :
    Motion.Inside ⟨Elementary.fract place * boxSize, velocity⟩ := by
  have lower := Elementary.fract_nonneg place nonneg
  have upper := Elementary.fract_lt place
  rw [Motion.Inside, boxSize_eq]
  constructor <;> dsimp only <;> linarith

omit [Elementary] in
private theorem abs_triple_le {value : ℝ} (unit : |value| ≤ 1) : |value * 3.0| ≤ 3 := by
  rw [abs_mul, abs_of_pos (by norm_num : (0 : ℝ) < 3.0)]
  linarith

theorem bound_initial (number : Nat) : Bound (initial number) := by
  have nonneg : (0 : ℝ) ≤ number := Nat.cast_nonneg number
  have levelSpread : (0 : ℝ) ≤ number * 0.61803398875 := mul_nonneg nonneg (by norm_num)
  have uprightSpread : (0 : ℝ) ≤ number * 0.41421356237 := mul_nonneg nonneg (by norm_num)
  constructor
  · exact ⟨inside_spread levelSpread _, abs_triple_le (Elementary.abs_sin_le _)⟩
  · apply Motion.Level.upright
    exact ⟨inside_spread uprightSpread _, abs_triple_le (Elementary.abs_cos_le _)⟩

end Particle

/-! ### Runs of the workload -/

section Runs

variable [Elementary] {particles : List (Particle ℝ)}

theorem bound_layout (count : Nat) : ∀ particle ∈ layout count, Particle.Bound particle := by
  intro particle member
  obtain ⟨number, -, rfl⟩ := List.mem_map.mp member
  exact Particle.bound_initial number

theorem bound_advanceTimes (steps : Nat) (bound : ∀ particle ∈ particles, particle.Bound) :
    ∀ particle ∈ advanceTimes steps particles, particle.Bound := by
  induction steps generalizing particles with
  | zero => exact bound
  | succ steps inductionHypothesis =>
      refine inductionHypothesis fun particle member => ?_
      obtain ⟨earlier, isEarlier, rfl⟩ := List.mem_map.mp member
      exact Particle.bound_advance (bound earlier isEarlier)

theorem length_advanceTimes (steps : Nat) :
    (advanceTimes steps particles).length = particles.length := by
  induction steps generalizing particles with
  | zero => rfl
  | succ steps inductionHypothesis =>
      exact inductionHypothesis.trans (List.length_map Particle.advance)

theorem advanceTimes_add (first second : Nat) :
    advanceTimes second (advanceTimes first particles) =
      advanceTimes (first + second) particles := by
  induction first generalizing particles with
  | zero => rw [Nat.zero_add]; rfl
  | succ first inductionHypothesis =>
      rw [Nat.succ_add]
      exact inductionHypothesis

theorem contained_of_bound (bound : ∀ particle ∈ particles, particle.Bound) :
    contained particles = true :=
  List.all_eq_true.mpr fun particle member => Particle.isContained_of_bound (bound particle member)

namespace Shape

variable (shape : Shape)

theorem run_eq (bound : ∀ particle ∈ particles, particle.Bound) :
    shape.run particles = (.ok (), advanceTimes shape.steps particles) :=
  if_pos (contained_of_bound (bound_advanceTimes shape.steps bound))

theorem repeatTimes_run (count : Nat) (bound : ∀ particle ∈ particles, particle.Bound) :
    (repeatTimes count (shape.kernelOver ℝ).run).run.run particles =
      (.ok (), advanceTimes (shape.steps * count) particles) := by
  induction count generalizing particles with
  | zero => rfl
  | succ count inductionHypothesis =>
      have first : (shape.kernelOver ℝ).run.run.run particles =
          (.ok (), advanceTimes shape.steps particles) :=
        shape.run_eq bound
      have later := inductionHypothesis (bound_advanceTimes shape.steps bound)
      rw [advanceTimes_add, Nat.add_comm, ← Nat.mul_succ] at later
      rw [repeatTimes, ExceptT.run_bind, StateT.run_bind, first]
      exact later

end Shape

end Runs

/-- A call between a setup and the teardown after it. -/
inductive Call where
  | run
  | warmup
  | exercise
deriving DecidableEq, Repr

namespace Call

/-- What a call does to a kernel. -/
def action {m : Type → Type} [Monad m] (kernel : Kernel m) : Call → ExceptT Fault m Unit
  | run => kernel.run
  | warmup => kernel.warmup
  | exercise => kernel.exercise

/-- Calls one after the other, whatever their outcomes, with these. -/
def inTurn {m : Type → Type} [Monad m] (kernel : Kernel m) (calls : List Call) :
    m (List (Except Fault Unit)) :=
  calls.mapM fun call => (call.action kernel).run

/-- How often a call runs the workload, if no run fails. -/
def runs : Call → Nat
  | run => 1
  | warmup => 1
  | exercise => exerciseRuns

variable [Elementary] {particles : List (Particle ℝ)} (shape : Shape)

theorem run_action (call : Call) (bound : ∀ particle ∈ particles, particle.Bound) :
    (call.action (shape.kernelOver ℝ)).run.run particles =
      (.ok (), advanceTimes (shape.steps * call.runs) particles) := by
  cases call with
  | run =>
      rw [runs, Nat.mul_one]
      exact shape.run_eq bound
  | warmup =>
      rw [runs, Nat.mul_one]
      exact shape.run_eq bound
  | exercise => exact shape.repeatTimes_run exerciseRuns bound

theorem run_inTurn (calls : List Call) (bound : ∀ particle ∈ particles, particle.Bound) :
    (inTurn (shape.kernelOver ℝ) calls).run particles =
      (List.replicate calls.length (.ok ()),
        advanceTimes (shape.steps * (calls.map runs).sum) particles) := by
  induction calls generalizing particles with
  | nil => rfl
  | cons call calls inductionHypothesis =>
      have first := call.run_action shape bound
      have later := inductionHypothesis (bound_advanceTimes (shape.steps * call.runs) bound)
      rw [advanceTimes_add, ← Nat.mul_add] at later
      rw [inTurn, List.mapM_cons, StateT.run_bind, first]
      exact congrArg (fun rest => (Except.ok () :: rest.1, rest.2)) later

end Call

/-- After a setup, whatever was there before, every call succeeds and no
particle is ever outside the box. The calls take the layout on by the steps of
all their runs, and after no number of steps at all is there a particle that
has left the box or is missing. -/
theorem no_particle_escapes
    [Elementary]
    (shape : Shape)
    (before : List (Particle ℝ))
    (calls : List Call) :
    let kernel := shape.kernelOver ℝ
    let prepared := kernel.setup.run.run before
    let finished := (Call.inTurn kernel calls).run prepared.2
    prepared.1 = .ok () ∧
      finished.1 = List.replicate calls.length (.ok ()) ∧
      finished.2 = advanceTimes (shape.steps * (calls.map Call.runs).sum) (layout shape.count) ∧
      ∀ steps,
        let moved : List (Particle ℝ) := advanceTimes steps (layout shape.count)
        moved.length = shape.count ∧
          contained moved = true ∧
          ∀ particle ∈ moved,
            (0 ≤ particle.level.position ∧ particle.level.position ≤ boxSize) ∧
              0 ≤ particle.upright.position ∧ particle.upright.position ≤ boxSize := by
  intro kernel prepared finished
  have start := bound_layout shape.count
  have finish := Call.run_inTurn shape calls start
  refine ⟨rfl, congrArg Prod.fst finish, congrArg Prod.snd finish, fun steps => ?_⟩
  have bound := bound_advanceTimes steps start
  have counted : (layout shape.count : List (Particle ℝ)).length = shape.count := by
    rw [layout, List.length_map, List.length_range]
  exact ⟨(length_advanceTimes steps).trans counted, contained_of_bound bound,
    fun particle member => ⟨(bound particle member).1.1, (bound particle member).2.1⟩⟩

/-- The bundled shape, with the functions of analysis. -/
theorem standard_particles_stay :
    letI := Elementary.analysis
    ((Call.inTurn (Shape.standard.kernelOver ℝ) [.run, .warmup, .exercise]).run
      (layout Shape.standard.count)).1 = [.ok (), .ok (), .ok ()] :=
  letI := Elementary.analysis
  (no_particle_escapes Shape.standard [] [.run, .warmup, .exercise]).2.1

end Throughput.Particles
