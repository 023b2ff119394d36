import Throughput.Proofs.Patience
import Throughput.Proofs.Trace.Cycle

/-!
Contract: the order in which one measurement calls a kernel and its clock.

Owns:
- `Trace.steps`, the kernel calls and clock operations of a trace;
- `Trace.protocol`, the steps of a full cycle;
- the theorem that a measurement takes the steps of the protocol, up to the
  first step that fails.
-/

namespace Throughput

variable {ω : Type}

namespace Trace

variable {place : Nat}

/-- Whether an event is a call of the kernel or an operation of the clock. -/
def Event.isStep : Event → Bool
  | .started | .looked _ | .called .. => true
  | _ => false

/-- The kernel calls and clock operations of a trace. -/
def steps (trace : Trace) : Trace :=
  trace.filter Event.isStep

/-- The steps of a full cycle, with the readings of its two loops: each loop
starts the clock once and then works and looks at the clock by turns. -/
def protocol (place : Nat) (warmups exercises : List Nat) : Trace :=
  .called place .setup (.ok ()) :: .started ::
    (rounds place .warmup warmups ++ .started ::
      (rounds place .exercise exercises ++ [.called place .teardown (.ok ())]))

@[simp]
theorem steps_append (first second : Trace) :
    (first ++ second).steps = first.steps ++ second.steps :=
  List.filter_append ..

@[simp]
theorem steps_called (phase : Phase) (outcome : Except Fault Unit) (rest : Trace) :
    steps (.called place phase outcome :: rest) = .called place phase outcome :: steps rest := rfl

@[simp]
theorem steps_started (rest : Trace) : steps (.started :: rest) = .started :: steps rest := rfl

@[simp]
theorem steps_nil : steps [] = [] := rfl

@[simp]
theorem steps_rounds (phase : Phase) (readings : List Nat) :
    steps (rounds place phase readings) = rounds place phase readings := by
  induction readings with
  | nil => rfl
  | cons reading readings inductionHypothesis =>
      rw [rounds_cons, steps_called]
      change _ :: .looked reading :: steps (rounds place phase readings) = _
      rw [inductionHypothesis]

@[simp]
theorem steps_loop (phase : Phase) (minimum : Nat) (readings : List Nat) (last : Nat) :
    steps (loop place phase minimum readings last) =
      .started :: rounds place phase readings := by
  change steps (.started :: (rounds place phase readings ++ _)) = _
  rw [steps_started, steps_append, steps_rounds]
  exact congrArg _ (List.append_nil _)

theorem rounds_append (phase : Phase) (first second : List Nat) :
    rounds place phase (first ++ second) =
      rounds place phase first ++ rounds place phase second :=
  List.flatMap_append ..

/-- Readings below a minimum can be followed by one that reaches it. -/
theorem reaches_concat {minimum : Nat} {readings : List Nat}
    (below : ∀ reading ∈ readings, reading < minimum) :
    Reaches minimum (readings ++ [minimum]) minimum :=
  ⟨readings, rfl, below, Nat.le_refl minimum⟩

/-- A completed cycle takes the steps of the protocol. -/
theorem FullCycle.steps_eq {timing : Timing} {trace : Trace}
    (full : FullCycle place timing trace) :
    ∃ warmups exercises last,
      Reaches warmupMillis warmups last ∧
      Reaches exerciseMillis exercises timing.elapsed ∧
      timing.iterations = exercises.length ∧
      trace.steps = protocol place warmups exercises := by
  obtain @⟨warmups, exercises, last, timing, warm, exercised, counted⟩ := full
  refine ⟨warmups, exercises, last, warm, exercised, counted, ?_⟩
  simp [protocol]

/-- A cycle that breaks off takes the steps of the protocol up to a call that
fails where the protocol has one that succeeds. -/
theorem BrokenCycle.steps_eq {name : String} {failure : Failure} {trace : Trace}
    (broken : BrokenCycle place name failure trace) :
    ∃ done phase fault rest warmups exercises last final,
      failure = .kernel name phase fault ∧
      Reaches warmupMillis warmups last ∧ Reaches exerciseMillis exercises final ∧
      protocol place warmups exercises =
        done ++ .called place phase (.ok ()) :: rest ∧
      trace.steps = done ++ [.called place phase (.error fault)] := by
  cases broken with
  | setup fault =>
      exact ⟨[], .setup, fault, _, _, _, _, _, rfl, reaches_single (Nat.le_refl _),
        reaches_single (Nat.le_refl _), rfl, rfl⟩
  | @warmup readings fault below =>
      refine ⟨.called place .setup (.ok ()) :: .started :: rounds place .warmup readings,
        .warmup, fault,
        .looked warmupMillis :: .started ::
          (rounds place .exercise [exerciseMillis] ++ [.called place .teardown (.ok ())]),
        _, _, _, _, rfl, reaches_concat below, reaches_single (Nat.le_refl _), ?_, ?_⟩
      · simp [protocol, rounds_append]
      · simp
  | @exercise warmups readings last fault warm below =>
      refine ⟨.called place .setup (.ok ()) :: .started ::
          (rounds place .warmup warmups ++ .started :: rounds place .exercise readings),
        .exercise, fault, [.looked exerciseMillis, .called place .teardown (.ok ())],
        _, _, _, _, rfl, warm, reaches_concat below, ?_, ?_⟩
      · simp [protocol, rounds_append]
      · simp
  | @teardown warmups exercises last final fault warm exercised =>
      refine ⟨.called place .setup (.ok ()) :: .started ::
          (rounds place .warmup warmups ++ .started :: rounds place .exercise exercises),
        .teardown, fault, [], _, _, _, _, rfl, warm, exercised, ?_, ?_⟩
      · simp [protocol]
      · simp

end Trace

open Trace

/-- The protocol of one measurement, for every kernel and every clock. A
measurement that succeeds takes the steps of the protocol; its sample is made
of the exercise loop alone. One that fails takes the steps of the protocol up
to its first failing call, and ends there. It stays unfinished only in a loop
that has gone round `patience` times without reaching its minimum, and what is
finished is the same for every greater patience. -/
theorem measure_follows_protocol
    (host : Host (StateM ω))
    (kernel : Kernel (StateM ω))
    (patience : Nat)
    (before : Watched ω) :
    let run := (kernel.measure host patience).run.run before.world
    (∀ more, patience ≤ more → Agrees (kernel.measure host patience) (kernel.measure host more)) ∧
    ∃ trace,
      ((kernel.watched 0).measure host.watched patience).run.run before =
          (run.1, ⟨run.2, before.trace ++ trace⟩) ∧
        match run.1 with
        | .ok timing =>
          ∃ warmups exercises last,
            Reaches 100 warmups last ∧ Reaches 2000 exercises timing.elapsed ∧
              trace.steps = protocol 0 warmups exercises ∧
              (timing.micros : Float) =
                1000.0 * Float.ofNat timing.elapsed / Float.ofNat exercises.length
        | .error (.failed failure) =>
          ∃ done phase fault rest warmups exercises last final,
            failure = .kernel kernel.name phase fault ∧
              Reaches 100 warmups last ∧ Reaches 2000 exercises final ∧
              protocol 0 warmups exercises = done ++ .called 0 phase (.ok ()) :: rest ∧
              trace.steps = done ++ [.called 0 phase (.error fault)]
        | .error .unfinished => Stuck patience trace := by
  intro run
  have registered : [kernel][0]? = some kernel := rfl
  have leaves : Leaves host [kernel] (kernel.measure host patience).run
      ((kernel.watched 0).measure host.watched patience).run
      (CycleShape 0 kernel.name patience) :=
    leaves_measure registered patience
  obtain ⟨trace, watchedRun, _, shape⟩ := leaves before
  refine ⟨fun more enough => kernel.measure_agrees host enough, trace, watchedRun, ?_⟩
  change CycleShape 0 kernel.name patience run.1 trace at shape
  match answer : run.1 with
  | .ok timing =>
      rw [answer] at shape
      obtain ⟨warmups, exercises, last, warm, exercised, counted, steps⟩ :=
        FullCycle.steps_eq shape
      refine ⟨warmups, exercises, last, warm, exercised, steps, ?_⟩
      rw [← counted]
      rfl
  | .error (.failed failure) =>
      rw [answer] at shape
      exact BrokenCycle.steps_eq shape
  | .error .unfinished =>
      rw [answer] at shape
      exact EndlessCycle.stuck shape

end Throughput
