import Mathlib.Tactic.FieldSimp
import Mathlib.Tactic.Linarith
import Mathlib.Tactic.Positivity
import Throughput.Proofs.CyclicClock
import Throughput.Proofs.Exact
import Throughput.Proofs.TimingLoop

/-!
Contract: measurements end where the clock gets on.

Owns:
- how many calls a loop and a cycle make when their readings get on, and that
  they are not left unfinished then;
- the theorem that says so of every clock, and that the clock of a rehearsal
  gets on.
-/

namespace Throughput

namespace Trace

variable {place patience period minimum : Nat} {phase : Phase} {trace : Trace}

/-- A loop whose readings get on. -/
theorem LoopShape.ends {answer : Except Halt Timing}
    (shape : LoopShape place phase minimum patience answer trace)
    (getsOn : trace.GetsOn period) (periodPos : 0 < period) (minimumPos : 0 < minimum)
    (enough : minimum * period ≤ patience) :
    answer ≠ .error .unfinished ∧ trace.calls.length ≤ minimum * period := by
  match answer, shape with
  | .ok timing, ⟨readings, reaches, _, _, shown⟩ =>
      have overtakes : Overtakes period 0 readings := by
        refine getsOn readings ?_
        rw [shown, ← List.append_nil (loop ..), readingsByStart_loop_append, firstReadings_nil,
          List.append_nil]
        exact List.mem_singleton_self _
      refine ⟨nofun, ?_⟩
      rw [shown, calls_loop, List.length_replicate]
      exact overtakes.length_le_of_reaches reaches periodPos minimumPos
  | .error (.failed failure), ⟨rest, ⟨readings, fault, below, _, _, inside⟩, shown⟩ =>
      have overtakes : Overtakes period 0 readings := by
        refine getsOn readings ?_
        simp [shown, inside]
      refine ⟨nofun, ?_⟩
      have fewer := overtakes.length_lt_of_below below periodPos minimumPos
      rw [shown, inside, calls_started, calls_append, calls_rounds, calls_called, calls_nil,
        List.length_append, List.length_replicate]
      exact fewer
  | .error .unfinished, ⟨rest, ⟨readings, below, exhausted, inside⟩, shown⟩ =>
      have overtakes : Overtakes period 0 readings := by
        refine getsOn readings ?_
        simp [shown, inside]
      have fewer := overtakes.length_lt_of_below below periodPos minimumPos
      omega

/-- The calls of both loops of a cycle stay within so many periods. -/
def CallsWithin (period : Nat) (trace : Trace) : Prop :=
  trace.calls.count .warmup ≤ warmupMillis * period ∧
    trace.calls.count .exercise ≤ exerciseMillis * period

section Cycles

variable (getsOn : trace.GetsOn period) (periodPos : 0 < period)

include getsOn periodPos

theorem FullCycle.callsWithin {timing : Timing} (full : FullCycle place timing trace) :
    CallsWithin period trace ∧ exerciseMillis ≤ timing.elapsed ∧ 0 < timing.iterations ∧
      timing.iterations ≤ exerciseMillis * period := by
  obtain @⟨warmups, exercises, last, timing, warm, exercised, counted⟩ := full
  have warmGetsOn : Overtakes period 0 warmups := getsOn _ (by simp)
  have exerciseGetsOn : Overtakes period 0 exercises := getsOn _ (by simp)
  have fewWarmups := warmGetsOn.length_le_of_reaches warm periodPos (by decide)
  have fewExercises := exerciseGetsOn.length_le_of_reaches exercised periodPos (by decide)
  obtain ⟨short, rfl, -, reached⟩ := exercised
  rw [counted]
  refine ⟨⟨?_, ?_⟩, reached, by simp, fewExercises⟩
  · simpa [List.count_replicate] using fewWarmups
  · simpa [List.count_replicate] using fewExercises

theorem BrokenCycle.callsWithin {name : String} {failure : Failure}
    (broken : BrokenCycle place name failure trace) : CallsWithin period trace := by
  cases broken with
  | setup fault => exact ⟨Nat.zero_le _, Nat.zero_le _⟩
  | @warmup readings fault below =>
      have warmGetsOn : Overtakes period 0 readings := getsOn _ (by simp)
      have fewWarmups := warmGetsOn.length_lt_of_below below periodPos (by decide)
      refine ⟨?_, ?_⟩
      · simpa [List.count_replicate] using fewWarmups
      · simp [List.count_replicate]
  | @exercise warmups readings last fault warm below =>
      have warmGetsOn : Overtakes period 0 warmups := getsOn _ (by simp)
      have exerciseGetsOn : Overtakes period 0 readings := getsOn _ (by simp)
      have fewWarmups := warmGetsOn.length_le_of_reaches warm periodPos (by decide)
      have fewExercises := exerciseGetsOn.length_lt_of_below below periodPos (by decide)
      refine ⟨?_, ?_⟩
      · simpa [List.count_replicate] using fewWarmups
      · simpa [List.count_replicate] using fewExercises
  | @teardown warmups exercises last final fault warm exercised =>
      have warmGetsOn : Overtakes period 0 warmups := getsOn _ (by simp)
      have exerciseGetsOn : Overtakes period 0 exercises := getsOn _ (by simp)
      have fewWarmups := warmGetsOn.length_le_of_reaches warm periodPos (by decide)
      have fewExercises := exerciseGetsOn.length_le_of_reaches exercised periodPos (by decide)
      refine ⟨?_, ?_⟩
      · simpa [List.count_replicate] using fewWarmups
      · simpa [List.count_replicate] using fewExercises

/-- Neither loop can go on for ever, so the rounds that are allowed are too few. -/
theorem EndlessCycle.patience_lt (endless : EndlessCycle place patience trace) :
    patience < exerciseMillis * period := by
  cases endless with
  | @warmup readings below exhausted =>
      have warmGetsOn : Overtakes period 0 readings := getsOn _ (by simp)
      have fewWarmups := warmGetsOn.length_lt_of_below below periodPos (by decide)
      have notMore : warmupMillis * period ≤ exerciseMillis * period :=
        Nat.mul_le_mul_right _ (by decide)
      omega
  | @exercise warmups readings last warm below exhausted =>
      have exerciseGetsOn : Overtakes period 0 readings := getsOn _ (by simp)
      exact exhausted ▸ exerciseGetsOn.length_lt_of_below below periodPos (by decide)

end Cycles

end Trace

/-- A sample of so many rounds at most is no less than the mean of that many. -/
theorem Timing.le_micros [Elementary] {timing : Timing} {period : Nat}
    (reached : exerciseMillis ≤ timing.elapsed) (done : 0 < timing.iterations)
    (few : timing.iterations ≤ exerciseMillis * period) :
    1000 / (period : ℝ) ≤ timing.micros := by
  have periodPos : 0 < period := by
    refine Nat.pos_of_ne_zero fun isZero => ?_
    rw [isZero] at few
    omega
  have thousand : (1000.0 : ℝ) = 1000 := by norm_num
  change 1000 / (period : ℝ) ≤ 1000.0 * (timing.elapsed : ℝ) / (timing.iterations : ℝ)
  rw [thousand, div_le_div_iff₀ (by exact_mod_cast periodPos) (by exact_mod_cast done)]
  have inNat : timing.iterations ≤ timing.elapsed * period :=
    few.trans (Nat.mul_le_mul_right period reached)
  have inReal : (timing.iterations : ℝ) ≤ timing.elapsed * period := by exact_mod_cast inNat
  linarith

theorem Trace.CycleShape.ends [Elementary] {place patience period : Nat} {name : String}
    {answer : Except Halt Timing} {trace : Trace}
    (shape : CycleShape place name patience answer trace) (getsOn : trace.GetsOn period)
    (periodPos : 0 < period) (enough : exerciseMillis * period ≤ patience) :
    answer ≠ .error .unfinished ∧ trace.CallsWithin period ∧
      ∀ timing, answer = .ok timing → 1000 / (period : ℝ) ≤ timing.micros := by
  match answer, shape with
  | .ok timing, full =>
      obtain ⟨within, reached, done, few⟩ := FullCycle.callsWithin getsOn periodPos full
      refine ⟨nofun, within, ?_⟩
      rintro _ ⟨⟩
      exact Timing.le_micros reached done few
  | .error (.failed _), broken =>
      exact ⟨nofun, BrokenCycle.callsWithin getsOn periodPos broken, nofun⟩
  | .error .unfinished, endless =>
      have tooFew := EndlessCycle.patience_lt getsOn periodPos endless
      exact absurd enough (Nat.not_le.mpr tooFew)

/-! ### Every clock that gets on -/

section Runs

variable {ω : Type} {host : Host (StateM ω)} {work : ExceptT Fault (StateM ω) Unit}
variable {kernel : Kernel (StateM ω)} {before : ω} {period minimum patience : Nat}

/-- A kernel that exercises one unit of work. -/
def Kernel.exercising (work : ExceptT Fault (StateM ω) Unit) : Kernel (StateM ω) where
  name := "work"
  run := work
  exercise := work

theorem leaves_watchedWork (work : ExceptT Fault (StateM ω) Unit) :
    Leaves host [Kernel.exercising work] work.run (watchedWork work).run
      (fun answer trace => trace = [.called 0 .exercise answer]) :=
  Leaves.watch _ fun _ => ⟨Kernel.exercising work, rfl, rfl⟩

theorem timeAtLeast_ends (periodPos : 0 < period) (minimumPos : 0 < minimum)
    (enough : minimum * period ≤ patience) :
    let run := (timeAtLeast host.watched patience (watchedWork work) minimum).run.run ⟨before, []⟩
    run.2.trace.GetsOn period →
      Returns host work minimum before run.1 run.2.world run.2.trace ∧
        run.2.trace.calls.length ≤ minimum * period := by
  intro run getsOn
  obtain ⟨trace, isRun, -, shape⟩ :=
    @leaves_timeAtLeast _ host _ _ _ _ _ _ (leaves_watchedWork work) minimumPos patience ⟨before, []⟩
  have run_eq : run = ((((timeAtLeast host patience work minimum).run.run before)).1,
    ⟨((timeAtLeast host patience work minimum).run.run before).2, trace⟩) := isRun
  rw [run_eq] at getsOn ⊢
  obtain ⟨finished, few⟩ := shape.ends getsOn periodPos minimumPos enough
  refine ⟨⟨finished, patience, fun more notLess => ⟨?_, ?_⟩⟩, few⟩
  · exact (timeAtLeast_agrees host work minimum notLess before).resolve_left finished
  · have finishedToo : run.1 ≠ .error .unfinished := run_eq ▸ finished
    have same := timeAtLeast_agrees host.watched (watchedWork work) minimum notLess ⟨before, []⟩
    exact (same.resolve_left finishedToo).trans isRun

theorem measure_ends [Elementary] (periodPos : 0 < period)
    (enough : exerciseMillis * period ≤ patience) :
    let run := ((kernel.watched 0).measure host.watched patience).run.run ⟨before, []⟩
    run.2.trace.GetsOn period →
      run.1 ≠ .error .unfinished ∧
      (∀ more, patience ≤ more →
        (kernel.measure host more).run.run before = (run.1, run.2.world) ∧
          ((kernel.watched 0).measure host.watched more).run.run ⟨before, []⟩ = run) ∧
      run.2.trace.CallsWithin period ∧
      ∀ timing, run.1 = .ok timing → 1000 / (period : ℝ) ≤ timing.micros := by
  intro run getsOn
  have registered : [kernel][0]? = some kernel := rfl
  obtain ⟨trace, isRun, -, shape⟩ := @leaves_measure _ host _ _ _ registered patience ⟨before, []⟩
  have run_eq : run = (((kernel.measure host patience).run.run before).1,
    ⟨((kernel.measure host patience).run.run before).2, trace⟩) := isRun
  rw [run_eq] at getsOn
  obtain ⟨finished, within, samples⟩ := shape.ends getsOn periodPos enough
  have finishedToo : run.1 ≠ .error .unfinished := run_eq ▸ finished
  refine ⟨finishedToo, fun more notLess => ⟨?_, ?_⟩, run_eq ▸ within, run_eq ▸ samples⟩
  · rw [run_eq]
    exact (kernel.measure_agrees host notLess before).resolve_left finished
  · exact ((kernel.watched 0).measure_agrees host.watched notLess ⟨before, []⟩).resolve_left
      finishedToo

end Runs

/-! ### The clock of a rehearsal -/

section Rehearsals

open Rehearsal

variable {σ : Type} {bench : Bench σ Stage} {work : ExceptT Fault (StateM (Bench σ Stage)) Unit}
variable {kernel : Kernel (StateM (Bench σ Stage))} {patience minimum : Nat}

theorem timeAtLeast_getsOn (spends : OnlySpends work.run)
    (moves : ∃ step ∈ bench.surroundings.clock.steps, step ≠ 0) (minimumPos : 0 < minimum) :
    let run := (timeAtLeast (Bench.host Stage.host).watched patience (watchedWork work)
      minimum).run.run ⟨bench, []⟩
    run.2.world.surroundings.clock.now < latest →
      run.2.trace.GetsOn bench.surroundings.clock.steps.length := by
  have steps : ∀ kernel ∈ [Kernel.exercising work], ∀ phase, OnlySpends (kernel.step phase).run := by
    intro kernel member phase
    obtain rfl := List.mem_singleton.mp member
    cases phase with
    | setup | teardown => exact fun _ => .inl rfl
    | warmup | exercise => exact spends
  exact getsOn_of_leaves (leaves_timeAtLeast (leaves_watchedWork work) minimumPos patience) steps moves

theorem measure_getsOn (spends : ∀ phase, OnlySpends (kernel.step phase).run)
    (moves : ∃ step ∈ bench.surroundings.clock.steps, step ≠ 0) :
    let run := ((kernel.watched 0).measure (Bench.host Stage.host).watched patience).run.run
      ⟨bench, []⟩
    run.2.world.surroundings.clock.now < latest →
      run.2.trace.GetsOn bench.surroundings.clock.steps.length := by
  have registered : [kernel][0]? = some kernel := rfl
  have steps : ∀ other ∈ [kernel], ∀ phase, OnlySpends (other.step phase).run := by
    intro other member
    obtain rfl := List.mem_singleton.mp member
    exact spends
  exact getsOn_of_leaves (leaves_measure registered patience) steps moves

end Rehearsals

/-- Measurements end on every clock that gets on: each of its readings after a start
is exceeded by the one that comes `period` looks later, where the first exceed
zero. Nothing else is asked of the clock; it may stand still between, or even go
back.

A measurement loop then returns, with at most `minimum * period` calls. So does a
full cycle of any kernel, with at most `100 * period` warmups and `2000 * period`
exercises, and its sample is `1000 / period` microseconds at least. What returns at
one patience is returned at every greater one.

The clock of a rehearsal gets on by the length of its cycle, if that has a step that
is not zero, as long as its time does not come to the end: for a unit of work and for
a kernel with any state, which may let time pass. -/
theorem measurement_ends_on_moving_clock [Elementary]
    {ω σ : Type}
    (host : Host (StateM ω))
    (work : ExceptT Fault (StateM ω) Unit)
    (kernel : Kernel (StateM ω))
    (before : ω)
    (period : Nat)
    (periodPos : 1 ≤ period)
    (job : ExceptT Fault (StateM (Bench σ Rehearsal.Stage)) Unit)
    (actor : Kernel (StateM (Bench σ Rehearsal.Stage)))
    (bench : Bench σ Rehearsal.Stage) :
    (∀ minimum patience, 1 ≤ minimum → minimum * period ≤ patience →
      let run := (timeAtLeast host.watched patience (watchedWork work) minimum).run.run ⟨before, []⟩
      run.2.trace.GetsOn period →
        Returns host work minimum before run.1 run.2.world run.2.trace ∧
        run.2.trace.calls.length ≤ minimum * period) ∧
    (∀ patience, 2000 * period ≤ patience →
      let run := ((kernel.watched 0).measure host.watched patience).run.run ⟨before, []⟩
      run.2.trace.GetsOn period →
        run.1 ≠ .error .unfinished ∧
        (∀ more, patience ≤ more →
          (kernel.measure host more).run.run before = (run.1, run.2.world) ∧
          ((kernel.watched 0).measure host.watched more).run.run ⟨before, []⟩ = run) ∧
        (run.2.trace.calls.count .warmup ≤ 100 * period ∧
          run.2.trace.calls.count .exercise ≤ 2000 * period) ∧
        ∀ timing, run.1 = .ok timing → 1000 / (period : ℝ) ≤ timing.micros) ∧
    ((∃ step ∈ bench.surroundings.clock.steps, step ≠ 0) →
      let host := Bench.host Rehearsal.Stage.host
      let cycle := bench.surroundings.clock.steps.length
      (Rehearsal.OnlySpends job.run → ∀ minimum patience, 1 ≤ minimum →
        let run := (timeAtLeast host.watched patience (watchedWork job) minimum).run.run ⟨bench, []⟩
        run.2.world.surroundings.clock.now < Rehearsal.latest → run.2.trace.GetsOn cycle) ∧
      ((∀ phase, Rehearsal.OnlySpends (actor.step phase).run) → ∀ patience,
        let run := ((actor.watched 0).measure host.watched patience).run.run ⟨bench, []⟩
        run.2.world.surroundings.clock.now < Rehearsal.latest → run.2.trace.GetsOn cycle)) :=
  ⟨fun _ _ minimumPos enough => timeAtLeast_ends periodPos minimumPos enough,
    fun _ enough => measure_ends periodPos enough,
    fun moves => ⟨fun spends _ _ minimumPos => timeAtLeast_getsOn spends moves minimumPos,
      fun spends _ => measure_getsOn spends moves⟩⟩

/-- A clock that stands still at every other look. -/
def stallingBench : Bench Unit Rehearsal.Stage :=
  ⟨(), { clock := { steps := [0, 1000] } }⟩

def idleKernel : Kernel (StateM (Bench Unit Rehearsal.Stage)) :=
  Bench.kernel { name := "idle", run := pure () }

/-- Idle work and an idle kernel on such a clock. -/
theorem idle_work_ends_on_stalling_clock :
    letI := Elementary.analysis
    let loop := (timeAtLeast (Bench.host Rehearsal.Stage.host).watched 200
      (watchedWork idleKernel.run) 100).run.run ⟨stallingBench, []⟩
    let cycle := ((idleKernel.watched 0).measure (Bench.host Rehearsal.Stage.host).watched
      4000).run.run ⟨stallingBench, []⟩
    (loop.2.trace.GetsOn 2 ∧ cycle.2.trace.GetsOn 2) ∧
      loop.1 ≠ .error .unfinished ∧ loop.2.trace.calls.length ≤ 100 * 2 ∧
      cycle.1 ≠ .error .unfinished ∧
      ∀ timing, cycle.1 = .ok timing → 1000 / ((2 : Nat) : ℝ) ≤ timing.micros := by
  let := Elementary.analysis
  obtain ⟨loopEnds, cycleEnds, getsOn⟩ :=
    measurement_ends_on_moving_clock (Bench.host Rehearsal.Stage.host) idleKernel.run idleKernel
      stallingBench 2 (by decide) idleKernel.run idleKernel stallingBench
  obtain ⟨loopGetsOn, cycleGetsOn⟩ := getsOn ⟨1000, by decide, by decide⟩
  have spends : ∀ phase, Rehearsal.OnlySpends (idleKernel.step phase).run :=
    Rehearsal.onlySpends_kernel _
  have loopMoves := loopGetsOn (spends .warmup) 100 200 (by decide)
    (by decide +kernel)
  have cycleMoves := cycleGetsOn spends 4000 (by decide +kernel)
  obtain ⟨loopReturns, few⟩ := loopEnds 100 200 (by decide) (by decide) loopMoves
  obtain ⟨finished, -, -, samples⟩ := cycleEnds 4000 (by decide) cycleMoves
  exact ⟨⟨loopMoves, cycleMoves⟩, loopReturns.1, few, finished, samples⟩

end Throughput
