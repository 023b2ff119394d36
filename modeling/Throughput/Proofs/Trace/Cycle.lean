import Throughput.Proofs.Trace.Logic

/-!
Contract: the trace of a measurement loop and of one full cycle.

Owns:
- the shape of a loop: the clock is started, work and a look at the clock go
  by turns, and the first reading that reaches the minimum is the last;
- the shapes of a cycle that is completed, of one that breaks off at a failing
  step, and of one whose clock does not get on;
- for every function of the measurement, the statement that it leaves a trace
  of its shape.

A loop gives up after `patience` rounds. The shapes say so: an unfinished
trace ends with that many readings below the minimum, which no failure does.
-/

namespace Throughput

variable {ω : Type}
variable {host : Host (StateM ω)} {kernels : List (Kernel (StateM ω))}
variable {place patience : Nat}

namespace Trace

/-! ### Shapes -/

/-- Rounds of a loop: work that succeeds and a look at the clock, by turns. -/
def rounds (place : Nat) (phase : Phase) (readings : List Nat) : Trace :=
  readings.flatMap fun elapsed => [.called place phase (.ok ()), .looked elapsed]

/-- The last of the readings is the first that reaches the minimum. -/
def Reaches (minimum : Nat) (readings : List Nat) (last : Nat) : Prop :=
  ∃ short, readings = short ++ [last] ∧
    (∀ reading ∈ short, reading < minimum) ∧ minimum ≤ last

/-- A loop from its start to the entry that it leaves in the log. -/
def loop (place : Nat) (phase : Phase) (minimum : Nat) (readings : List Nat)
    (last : Nat) : Trace :=
  .started :: rounds place phase readings ++
    [.recorded (.loopFinished readings.length last minimum)]

/-- What the rounds of a loop leave, when `earlier` units of work were already
done and so many rounds are allowed. -/
def RoundsShape (place : Nat) (phase : Phase) (minimum earlier patience : Nat) :
    Except Halt Timing → Trace → Prop
  | .ok timing, trace =>
    ∃ readings, Reaches minimum readings timing.elapsed ∧
      timing.iterations = earlier + readings.length ∧
      readings.length ≤ patience ∧ trace = rounds place phase readings
  | .error (.failed failure), trace =>
    ∃ readings fault, (∀ reading ∈ readings, reading < minimum) ∧
      readings.length < patience ∧ failure = .work fault ∧
      trace = rounds place phase readings ++ [.called place phase (.error fault)]
  | .error .unfinished, trace =>
    ∃ readings, (∀ reading ∈ readings, reading < minimum) ∧
      readings.length = patience ∧ trace = rounds place phase readings

/-- What a loop leaves. -/
def LoopShape (place : Nat) (phase : Phase) (minimum patience : Nat) :
    Except Halt Timing → Trace → Prop
  | .ok timing, trace =>
    ∃ readings, Reaches minimum readings timing.elapsed ∧
      timing.iterations = readings.length ∧ readings.length ≤ patience ∧
      trace = loop place phase minimum readings timing.elapsed
  | .error halt, trace =>
    ∃ rest, RoundsShape place phase minimum 0 patience (.error halt) rest ∧
      trace = .started :: rest

/-- A cycle in which every step succeeds. -/
inductive FullCycle (place : Nat) : Timing → Trace → Prop where
  | intro {warmups exercises : List Nat} {last : Nat} {timing : Timing}
      (warm : Reaches warmupMillis warmups last)
      (exercised : Reaches exerciseMillis exercises timing.elapsed)
      (counted : timing.iterations = exercises.length) :
      FullCycle place timing
        (.called place .setup (.ok ()) ::
          (loop place .warmup warmupMillis warmups last ++
            (loop place .exercise exerciseMillis exercises timing.elapsed ++
              [.called place .teardown (.ok ())])))

/-- A cycle that breaks off at a step that fails. -/
inductive BrokenCycle (place : Nat) (name : String) : Failure → Trace → Prop where
  | setup (fault : Fault) :
      BrokenCycle place name (.kernel name .setup fault)
        [.called place .setup (.error fault)]
  | warmup {readings : List Nat} (fault : Fault)
      (below : ∀ reading ∈ readings, reading < warmupMillis) :
      BrokenCycle place name (.kernel name .warmup fault)
        (.called place .setup (.ok ()) :: .started ::
          (rounds place .warmup readings ++ [.called place .warmup (.error fault)]))
  | exercise {warmups readings : List Nat} {last : Nat} (fault : Fault)
      (warm : Reaches warmupMillis warmups last)
      (below : ∀ reading ∈ readings, reading < exerciseMillis) :
      BrokenCycle place name (.kernel name .exercise fault)
        (.called place .setup (.ok ()) ::
          (loop place .warmup warmupMillis warmups last ++ .started ::
            (rounds place .exercise readings ++
              [.called place .exercise (.error fault)])))
  | teardown {warmups exercises : List Nat} {last final : Nat} (fault : Fault)
      (warm : Reaches warmupMillis warmups last)
      (exercised : Reaches exerciseMillis exercises final) :
      BrokenCycle place name (.kernel name .teardown fault)
        (.called place .setup (.ok ()) ::
          (loop place .warmup warmupMillis warmups last ++
            (loop place .exercise exerciseMillis exercises final ++
              [.called place .teardown (.error fault)])))

/-- A cycle whose clock does not reach a minimum within so many rounds. -/
inductive EndlessCycle (place patience : Nat) : Trace → Prop where
  | warmup {readings : List Nat}
      (below : ∀ reading ∈ readings, reading < warmupMillis)
      (exhausted : readings.length = patience) :
      EndlessCycle place patience
        (.called place .setup (.ok ()) :: .started :: rounds place .warmup readings)
  | exercise {warmups readings : List Nat} {last : Nat}
      (warm : Reaches warmupMillis warmups last)
      (below : ∀ reading ∈ readings, reading < exerciseMillis)
      (exhausted : readings.length = patience) :
      EndlessCycle place patience
        (.called place .setup (.ok ()) ::
          (loop place .warmup warmupMillis warmups last ++ .started ::
            rounds place .exercise readings))

/-- A trace that breaks off in a loop of a cycle: the loop has gone round as
often as it may, and no reading has reached its minimum. -/
def Stuck (patience : Nat) (trace : Trace) : Prop :=
  ∃ done place phase minimum readings,
    ((phase, minimum) = (.warmup, warmupMillis) ∨
      (phase, minimum) = (.exercise, exerciseMillis)) ∧
    (∀ reading ∈ readings, reading < minimum) ∧ readings.length = patience ∧
    trace = done ++ .started :: rounds place phase readings

/-- What a cycle leaves. -/
def CycleShape (place : Nat) (name : String) (patience : Nat) :
    Except Halt Timing → Trace → Prop
  | .ok timing, trace => FullCycle place timing trace
  | .error (.failed failure), trace => BrokenCycle place name failure trace
  | .error .unfinished, trace => EndlessCycle place patience trace

@[simp]
theorem rounds_nil (phase : Phase) : rounds place phase [] = [] := rfl

@[simp]
theorem rounds_cons (phase : Phase) (reading : Nat) (readings : List Nat) :
    rounds place phase (reading :: readings) =
      .called place phase (.ok ()) :: .looked reading :: rounds place phase readings := rfl

theorem reaches_single {minimum last : Nat} (enough : minimum ≤ last) :
    Reaches minimum [last] last :=
  ⟨[], rfl, by simp, enough⟩

theorem Reaches.cons {minimum reading last : Nat} {readings : List Nat}
    (reaches : Reaches minimum readings last) (short : reading < minimum) :
    Reaches minimum (reading :: readings) last := by
  obtain ⟨before, rfl, below, enough⟩ := reaches
  exact ⟨reading :: before, rfl, by simpa using ⟨short, below⟩, enough⟩

theorem Stuck.prepend {trace : Trace} (stuck : Stuck patience trace) (first : Trace) :
    Stuck patience (first ++ trace) := by
  obtain ⟨done, place, phase, minimum, readings, kind, below, exhausted, rfl⟩ := stuck
  exact ⟨first ++ done, place, phase, minimum, readings, kind, below, exhausted,
    (List.append_assoc ..).symm⟩

theorem EndlessCycle.stuck {trace : Trace} (endless : EndlessCycle place patience trace) :
    Stuck patience trace := by
  cases endless with
  | @warmup readings below exhausted =>
      exact ⟨[.called place .setup (.ok ())], place, _, _, readings, .inl rfl, below, exhausted,
        rfl⟩
  | @exercise warmups readings last warm below exhausted =>
      exact ⟨.called place .setup (.ok ()) :: loop place .warmup warmupMillis warmups last, place,
        _, _, readings, .inr rfl, below, exhausted, rfl⟩

end Trace

/-! ### What the functions leave -/

open Trace

theorem leaves_step {kernel : Kernel (StateM ω)} (registered : kernels[place]? = some kernel)
    (phase : Phase) :
    Leaves host kernels (kernel.step phase).run ((kernel.watched place).step phase).run
      (fun answer trace => trace = [.called place phase answer]) := by
  cases phase <;> exact Leaves.watch _ fun before => ⟨kernel, registered, rfl⟩

theorem leaves_start :
    Leaves host kernels host.start host.watched.start (fun _ trace => trace = [.started]) :=
  Leaves.watch (fun _ => .started) fun _ => rfl

theorem leaves_elapsed :
    Leaves host kernels host.elapsed host.watched.elapsed
      (fun elapsed trace => trace = [.looked elapsed]) :=
  Leaves.watch .looked fun _ => rfl

theorem leaves_record (entry : Log.Entry) :
    Leaves host kernels (host.record entry) (host.watched.record entry)
      (fun _ trace => trace = [.recorded entry]) :=
  Leaves.watch (fun _ => .recorded entry) fun _ => rfl

section Loops

variable {phase : Phase} {minimum : Nat}
variable {work : ExceptT Fault (StateM ω) Unit}
variable {watchedWork : ExceptT Fault (StateM (Watched ω)) Unit}

/-- One more round with a reading below the minimum. -/
private theorem RoundsShape.cons {earlier reading : Nat} {trace : Trace}
    {answer : Except Halt Timing}
    (shape : RoundsShape place phase minimum (earlier + 1) patience answer trace)
    (short : reading < minimum) :
    RoundsShape place phase minimum earlier (patience + 1) answer
      (.called place phase (.ok ()) :: .looked reading :: trace) := by
  match answer, shape with
  | .ok timing, ⟨readings, reaches, counted, within, shown⟩ =>
      refine ⟨reading :: readings, reaches.cons short, ?_, ?_, by rw [shown, rounds_cons]⟩
      · rw [counted, List.length_cons]
        omega
      · simpa using within
  | .error (.failed failure), ⟨readings, fault, below, within, isWork, shown⟩ =>
      refine ⟨reading :: readings, fault, by simpa using ⟨short, below⟩, ?_, isWork, ?_⟩
      · simpa using within
      · rw [shown, rounds_cons]
        rfl
  | .error .unfinished, ⟨readings, below, exhausted, shown⟩ =>
      exact ⟨reading :: readings, by simpa using ⟨short, below⟩, by simpa using exhausted,
        by rw [shown, rounds_cons]⟩

theorem leaves_timingLoop
    (works : Leaves host kernels work.run watchedWork.run
      (fun answer trace => trace = [.called place phase answer]))
    (patience earlier : Nat) :
    Leaves host kernels (timingLoop host.toClock work minimum patience earlier).run
      (timingLoop host.watched.toClock watchedWork minimum patience earlier).run
      (RoundsShape place phase minimum earlier patience) := by
  induction patience generalizing earlier with
  | zero =>
      refine (Leaves.pure (Except.error Halt.unfinished)).mono ?_
      intro answer trace given
      obtain ⟨rfl, rfl⟩ := given
      exact ⟨[], by simp, rfl, rfl⟩
  | succ patience inductionHypothesis =>
      refine (Leaves.bindAdapt _ works fun _ =>
        Leaves.bindLift leaves_elapsed fun elapsed => (?_ : Leaves host kernels _ _
          fun answer trace =>
            (elapsed < minimum ∧
              RoundsShape place phase minimum (earlier + 1) patience answer trace) ∨
            (minimum ≤ elapsed ∧ answer = .ok ⟨earlier + 1, elapsed⟩ ∧ trace = []))).mono ?_
      · by_cases short : elapsed < minimum
        · simp only [if_pos short]
          exact (inductionHypothesis (earlier + 1)).mono fun _ _ shape => .inl ⟨short, shape⟩
        · simp only [if_neg short]
          refine (Leaves.pure (Except.ok (Timing.mk (earlier + 1) elapsed))).mono ?_
          exact fun _ _ given => .inr ⟨Nat.not_lt.mp short, given.1, given.2⟩
      intro answer trace given
      rcases given with
        ⟨_, _, _, rfl, ⟨elapsed, _, last, rfl, continued, rfl⟩, rfl⟩ |
        ⟨fault, rfl, rfl⟩
      · rcases continued with ⟨short, shape⟩ | ⟨enough, rfl, rfl⟩
        · exact RoundsShape.cons shape short
        · exact ⟨[elapsed], reaches_single enough, rfl, by simp, rfl⟩
      · exact ⟨[], fault, by simp, by simp, rfl, rfl⟩

theorem leaves_timeAtLeast
    (works : Leaves host kernels work.run watchedWork.run
      (fun answer trace => trace = [.called place phase answer]))
    (positive : 0 < minimum) (patience : Nat) :
    Leaves host kernels (timeAtLeast host patience work minimum).run
      (timeAtLeast host.watched patience watchedWork minimum).run
      (LoopShape place phase minimum patience) := by
  have notZero : minimum ≠ 0 := Nat.ne_of_gt positive
  unfold timeAtLeast
  simp only [if_neg notZero]
  refine (Leaves.bindLift leaves_start fun _ =>
    Leaves.bindExcept (leaves_timingLoop works patience 0) fun timing =>
      Leaves.bindLift
        (leaves_record (.loopFinished timing.iterations timing.elapsed minimum)) fun _ =>
          Leaves.pure (Except.ok timing)).mono ?_
  intro answer trace given
  obtain ⟨_, _, rest, rfl, finished | ⟨halt, rfl, shape⟩, rfl⟩ := given
  · obtain ⟨timing, _, _, ⟨readings, reaches, counted, within, rfl⟩,
      ⟨_, _, _, rfl, ⟨rfl, rfl⟩, rfl⟩, rfl⟩ := finished
    rw [Nat.zero_add] at counted
    refine ⟨readings, reaches, counted, within, ?_⟩
    rw [loop, counted]
    rfl
  · exact ⟨rest, shape, rfl⟩

end Loops

/-- A loop of a cycle that does not end well. -/
private theorem error_of_loop {phase : Phase} {minimum : Nat} {halt : Halt} {trace : Trace}
    (shape : LoopShape place phase minimum patience (.error halt) trace) (name : String) :
    (∃ readings fault, (∀ reading ∈ readings, reading < minimum) ∧
      halt.inPhase name phase = .failed (.kernel name phase fault) ∧
      trace = .started ::
        (rounds place phase readings ++ [.called place phase (.error fault)])) ∨
    (∃ readings, (∀ reading ∈ readings, reading < minimum) ∧
      readings.length = patience ∧ halt.inPhase name phase = .unfinished ∧
      trace = .started :: rounds place phase readings) := by
  obtain ⟨rest, inside, rfl⟩ := shape
  match halt, inside with
  | .failed failure, ⟨readings, fault, below, _, isWork, shown⟩ =>
      subst isWork shown
      exact .inl ⟨readings, fault, below, rfl, rfl⟩
  | .unfinished, ⟨readings, below, exhausted, shown⟩ =>
      subst shown
      exact .inr ⟨readings, below, exhausted, rfl, rfl⟩

theorem leaves_measure {kernel : Kernel (StateM ω)}
    (registered : kernels[place]? = some kernel) (patience : Nat) :
    Leaves host kernels (kernel.measure host patience).run
      ((kernel.watched place).measure host.watched patience).run
      (CycleShape place kernel.name patience) := by
  have warms : Leaves host kernels (timeAtLeast host patience kernel.warmup warmupMillis).run
      (timeAtLeast host.watched patience (kernel.watched place).warmup warmupMillis).run
      (LoopShape place .warmup warmupMillis patience) :=
    leaves_timeAtLeast (leaves_step registered .warmup) (by decide) patience
  have exercises :
      Leaves host kernels (timeAtLeast host patience kernel.exercise exerciseMillis).run
        (timeAtLeast host.watched patience (kernel.watched place).exercise exerciseMillis).run
        (LoopShape place .exercise exerciseMillis patience) :=
    leaves_timeAtLeast (leaves_step registered .exercise) (by decide) patience
  unfold Kernel.measure
  refine (Leaves.bindAdapt _ (leaves_step registered .setup) fun _ =>
    Leaves.bindAdapt _ warms fun _ =>
      Leaves.bindAdapt _ exercises fun timing =>
        Leaves.bindAdapt _ (leaves_step registered .teardown) fun _ =>
          Leaves.pure (Except.ok timing)).mono ?_
  intro answer trace given
  rcases given with ⟨_, _, _, rfl, afterSetup, rfl⟩ | ⟨fault, rfl, rfl⟩
  · rcases afterSetup with ⟨warm, first, _, ⟨warmups, warmed, _, _, rfl⟩, afterWarmup, rfl⟩ |
      ⟨halt, rfl, halted⟩
    · rcases afterWarmup with
        ⟨timing, second, _, ⟨exercises, exercised, counted, _, rfl⟩, afterExercise, rfl⟩ |
        ⟨halt, rfl, halted⟩
      · rcases afterExercise with ⟨_, _, _, rfl, ⟨rfl, rfl⟩, rfl⟩ | ⟨fault, rfl, rfl⟩
        · exact .intro warmed exercised counted
        · exact .teardown fault warmed exercised
      · rcases error_of_loop halted kernel.name with
          ⟨readings, fault, below, isFault, rfl⟩ | ⟨readings, below, exhausted, isHalt, rfl⟩
        · rw [isFault]
          exact .exercise fault warmed below
        · rw [isHalt]
          exact .exercise warmed below exhausted
    · rcases error_of_loop halted kernel.name with
        ⟨readings, fault, below, isFault, rfl⟩ | ⟨readings, below, exhausted, isHalt, rfl⟩
      · rw [isFault]
        exact .warmup fault below
      · rw [isHalt]
        exact .warmup below exhausted
  · exact .setup fault

end Throughput
