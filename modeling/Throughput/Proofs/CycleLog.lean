import Throughput.Proofs.Fanout
import Throughput.Proofs.Order

/-!
Contract: what a pass leaves in the log about its cycles.

Owns:
- `Trace.ledger`, the calls of kernels in a trace and, among them, the entries
  that loops and cycles make in the log;
- `CycleTimings`, the timings of the two loops of a completed cycle, with the
  ledger that belongs to them, and `BrokenLedger`, the ledger of a cycle that
  breaks off;
- the theorem that the ledger of a pass is made of these and of nothing else.

Reporters make entries of their own, and none that is found in a ledger.
-/

namespace Throughput

variable {ω ε α ι : Type}

/-- Whether an entry is about a loop or a cycle. The others are made for
reporters. -/
def Log.Entry.isOfCycle : Log.Entry → Bool
  | .loopFinished .. | .cycleComplete .. | .cycleFailed .. => true
  | _ => false

/-- No outlet makes an entry about a loop or a cycle. -/
theorem Outlet.not_isOfCycle {outlet : Outlet} {notice : Notice} {entry : Log.Entry}
    (member : .record entry ∈ outlet.effects notice) : entry.isOfCycle = false := by
  cases outlet with
  | log =>
      cases notice with
      | singleSample sample => cases member
      | _ =>
          obtain rfl := Effect.record.inj (List.mem_singleton.mp member)
          rfl
  | _ => cases notice <;> simp [effects, consoleEffects, jsonEffects] at member

theorem Reporter.not_isOfCycle {reporter : Reporter Outlet} {notice : Notice} {entry : Log.Entry}
    (member : .record entry ∈ reporter.effects Outlet.effects notice) :
    entry.isOfCycle = false := by
  rw [effects_eq_outlets] at member
  obtain ⟨outlet, _, made⟩ := List.mem_flatMap.mp member
  exact Outlet.not_isOfCycle made

namespace Trace

/-! ### Ledgers -/

/-- Whether an event is a call of a kernel or an entry about a loop or a cycle. -/
def Event.isBooked : Event → Bool
  | .called .. => true
  | .recorded entry => entry.isOfCycle
  | _ => false

/-- The calls of kernels and the entries about loops and cycles, in order. -/
def ledger (trace : Trace) : Trace :=
  trace.filter Event.isBooked

/-- A loop that reaches its minimum: its calls, and an entry that counts them. -/
def loopLedger (place : Nat) (phase : Phase) (minimum : Nat) (timing : Timing) : Trace :=
  List.replicate timing.iterations (.called place phase (.ok ())) ++
    [.recorded (.loopFinished timing.iterations timing.elapsed minimum)]

/-- The timings of the two loops of a completed cycle. -/
structure CycleTimings where
  warmup : Timing
  exercise : Timing
  warm : 100 ≤ warmup.elapsed
  exercised : 2000 ≤ exercise.elapsed

namespace CycleTimings

/-- A cycle up to the end of its second loop. -/
def loops (timings : CycleTimings) (place : Nat) : Trace :=
  .called place .setup (.ok ()) ::
    (loopLedger place .warmup 100 timings.warmup ++
      loopLedger place .exercise 2000 timings.exercise)

/-- A completed cycle. -/
def ledger (timings : CycleTimings) (place : Nat) : Trace :=
  timings.loops place ++ [.called place .teardown (.ok ())]

/-- A completed cycle of a sample set, with the entry for its sample. -/
def numbered (timings : CycleTimings) (place cycle : Nat) : Trace :=
  timings.ledger place ++ [.recorded (.cycleComplete cycle timings.exercise.micros)]

end CycleTimings

/-- Completed cycles of a sample set, with numbers from `first`. -/
def cyclesFrom (place first : Nat) : List CycleTimings → Trace
  | [] => []
  | timings :: rest => timings.numbered place first ++ cyclesFrom place (first + 1) rest

/-- A cycle that breaks off. Before the call that fails there are the entries of
the loops that have reached their minimum: of none if it is a setup or a warmup,
of one if it is an exercise and of both if it is a teardown. -/
inductive BrokenLedger (place : Nat) (name : String) : Failure → Trace → Prop where
  | setup (fault : Fault) :
      BrokenLedger place name (.kernel name .setup fault) [.called place .setup (.error fault)]
  | warmup (done : Nat) (fault : Fault) :
      BrokenLedger place name (.kernel name .warmup fault)
        (.called place .setup (.ok ()) ::
          (List.replicate done (.called place .warmup (.ok ())) ++
            [.called place .warmup (.error fault)]))
  | exercise {warmup : Timing} (warm : 100 ≤ warmup.elapsed) (done : Nat) (fault : Fault) :
      BrokenLedger place name (.kernel name .exercise fault)
        (.called place .setup (.ok ()) ::
          (loopLedger place .warmup 100 warmup ++
            (List.replicate done (.called place .exercise (.ok ())) ++
              [.called place .exercise (.error fault)])))
  | teardown (timings : CycleTimings) (fault : Fault) :
      BrokenLedger place name (.kernel name .teardown fault)
        (timings.loops place ++ [.called place .teardown (.error fault)])

variable {place patience : Nat} {name : String} {trace rest : Trace}

@[simp]
theorem ledger_nil : ledger [] = [] := rfl

@[simp]
theorem ledger_append (first second : Trace) :
    (first ++ second).ledger = first.ledger ++ second.ledger :=
  List.filter_append ..

@[simp]
theorem ledger_called {phase : Phase} {outcome : Except Fault Unit} :
    ledger (.called place phase outcome :: rest) = .called place phase outcome :: ledger rest :=
  rfl

@[simp]
theorem ledger_started : ledger (.started :: rest) = ledger rest := rfl

@[simp]
theorem ledger_nanosRead {nanos : Nat} : ledger (.nanosRead nanos :: rest) = ledger rest := rfl

@[simp]
theorem ledger_dayRead {millis : Nat} : ledger (.dayRead millis :: rest) = ledger rest := rfl

@[simp]
theorem ledger_rounds (phase : Phase) (readings : List Nat) :
    ledger (rounds place phase readings) =
      List.replicate readings.length (.called place phase (.ok ())) := by
  induction readings with
  | nil => rfl
  | cons reading readings inductionHypothesis =>
      rw [rounds_cons, ledger_called, List.length_cons, List.replicate_succ]
      exact congrArg _ inductionHypothesis

@[simp]
theorem ledger_loop (phase : Phase) (minimum : Nat) (readings : List Nat) (last : Nat) :
    ledger (loop place phase minimum readings last) =
      loopLedger place phase minimum ⟨readings.length, last⟩ := by
  change ledger (.started :: (rounds place phase readings ++ _)) = _
  rw [ledger_started, ledger_append, ledger_rounds]
  rfl

/-! ### Cycles -/

/-- The last of the readings reaches the minimum. -/
theorem Reaches.le {minimum last : Nat} {readings : List Nat}
    (reaches : Reaches minimum readings last) : minimum ≤ last := by
  obtain ⟨_, _, _, enough⟩ := reaches
  exact enough

theorem FullCycle.exists_timings {timing : Timing} (full : FullCycle place timing trace) :
    ∃ timings : CycleTimings, timings.exercise = timing ∧ trace.ledger = timings.ledger place := by
  obtain @⟨warmups, exercises, last, timing, warm, exercised, counted⟩ := full
  have counts : Timing.mk exercises.length timing.elapsed = timing := by rw [← counted]
  refine ⟨⟨⟨warmups.length, last⟩, timing, warm.le, exercised.le⟩, rfl, ?_⟩
  simp [CycleTimings.ledger, CycleTimings.loops, counts, warmupMillis, exerciseMillis]

theorem BrokenCycle.booked {failure : Failure} (broken : BrokenCycle place name failure trace) :
    BrokenLedger place name failure trace.ledger := by
  cases broken with
  | setup fault => exact .setup fault
  | @warmup readings fault below =>
      have booked := @BrokenLedger.warmup place name readings.length fault
      simpa using booked
  | @exercise warmups readings last fault warm below =>
      have booked :=
        @BrokenLedger.exercise place name ⟨warmups.length, last⟩ warm.le readings.length fault
      simpa [warmupMillis] using booked
  | @teardown warmups exercises last final fault warm exercised =>
      have booked := @BrokenLedger.teardown place name
        ⟨⟨warmups.length, last⟩, ⟨exercises.length, final⟩, warm.le, exercised.le⟩ fault
      simpa [CycleTimings.loops, warmupMillis, exerciseMillis] using booked

/-! ### Notices -/

theorem Told.ledger_eq {reporters : List (Reporter Outlet)} {notice : Notice}
    (told : Told reporters notice trace) : trace.ledger = [] := by
  obtain ⟨refusals, each⟩ := told
  have unbooked : ∀ event ∈ trace, event.isBooked = false := by
    refine each.forall_event fun effect member refusal part isShown => ?_
    obtain ⟨reporter, _, isEffect⟩ := List.mem_flatMap.mp member
    subst isShown
    cases effect with
    | print line => cases refusal <;> simp [shown, Event.isBooked, Log.Entry.isOfCycle]
    | record entry =>
        have notOfCycle := reporter.not_isOfCycle isEffect
        simpa [shown, Event.isBooked] using notOfCycle
    | capture label notice => simp [shown, Event.isBooked]
  exact List.filter_eq_nil_iff.mpr fun event member => by simp [unbooked event member]

/-! ### Parts in order -/

/-- The ledger of a list of parts is made of the ledgers of the parts. -/
theorem Each.ledger {shape booked : ι → α → Trace → Prop} {items : List ι} {values : List α}
    (each : Each shape items values trace)
    (books : ∀ item value part, shape item value part → booked item value part.ledger) :
    Each booked items values trace.ledger := by
  induction each with
  | nil => exact .nil
  | cons holds _ inductionHypothesis =>
      rw [ledger_append]
      exact .cons (books _ _ _ holds) inductionHypothesis

theorem Sampled.exists_timings {cycle : Nat} {micros : Float}
    (sampled : Sampled place cycle micros trace) :
    ∃ timings : CycleTimings, micros = timings.exercise.micros ∧
      trace.ledger = timings.numbered place cycle := by
  obtain ⟨timing, full, isFull, rfl, rfl⟩ := sampled
  obtain ⟨timings, rfl, isLedger⟩ := isFull.exists_timings
  refine ⟨timings, rfl, ?_⟩
  rw [ledger_append, isLedger]
  rfl

/-- Cycles that are completed one after another, with numbers from `first`. -/
theorem Each.exists_cycles {first count : Nat} {samples : List Float}
    (each : Each (Sampled place) (List.range' first count) samples trace) :
    ∃ cycles : List CycleTimings, cycles.length = count ∧
      samples = cycles.map (fun timings => timings.exercise.micros) ∧
      trace.ledger = cyclesFrom place first cycles := by
  induction count generalizing first samples trace with
  | zero =>
      cases each
      exact ⟨[], rfl, rfl, rfl⟩
  | succ count inductionHypothesis =>
      rw [List.range'_succ] at each
      obtain _ | ⟨sampled, others⟩ := each
      obtain ⟨timings, rfl, isLedger⟩ := sampled.exists_timings
      obtain ⟨cycles, rfl, rfl, areLedgers⟩ := inductionHypothesis others
      refine ⟨timings :: cycles, rfl, rfl, ?_⟩
      rw [ledger_append, isLedger, areLedgers]
      rfl

/-! ### Kernels -/

variable {reporters : List (Reporter Outlet)} {entry : Kernel (StateM ω) × Nat}

/-- A kernel that is measured and reported: ten completed cycles, numbered from
zero, whose second loops give the samples of the report. -/
def BookedReport (entry : Kernel (StateM ω) × Nat) (report : Report Float) (booked : Trace) :
    Prop :=
  ∃ cycles : List CycleTimings, cycles.length = 10 ∧ report.name = entry.1.name ∧
    report.samples = cycles.map (fun timings => timings.exercise.micros) ∧
    booked = cyclesFrom entry.2 0 cycles

/-- The kernel at which a pass ends: some completed cycles, numbered from zero,
and the one that breaks off, with an entry for its failure. -/
def BookedFailure (entry : Kernel (StateM ω) × Nat) (failure : Failure) (booked : Trace) : Prop :=
  ∃ cycles broken, cycles.length < 10 ∧ BrokenLedger entry.2 entry.1.name failure broken ∧
    booked = cyclesFrom entry.2 0 cycles ++
      (broken ++ [.recorded (.cycleFailed cycles.length failure)])

/-- A kernel that is measured for a single cycle. -/
def BookedSample (entry : Kernel (StateM ω) × Nat) (sample : Sample Float) (booked : Trace) :
    Prop :=
  ∃ timings : CycleTimings, sample = ⟨entry.1.name, timings.exercise.micros⟩ ∧
    booked = timings.ledger entry.2

theorem Reported.booked {report : Report Float} (reported : Reported reporters entry report trace) :
    BookedReport entry report trace.ledger := by
  obtain ⟨opening, body, closing, samples, told, sampled, isReport, ended, rfl⟩ := reported
  rw [List.range_eq_range'] at sampled
  obtain ⟨cycles, counted, rfl, areLedgers⟩ := sampled.exists_cycles
  obtain ⟨named, areSamples⟩ := Report.fields_of_ofSamples isReport
  refine ⟨cycles, counted, named, areSamples, ?_⟩
  rw [ledger_append, ledger_append, told.ledger_eq, ended.ledger_eq, areLedgers, List.nil_append,
    List.append_nil]

theorem Abandoned.booked {failure : Failure}
    (abandoned : Abandoned reporters entry failure trace) :
    BookedFailure entry failure trace.ledger := by
  obtain ⟨opening, body, broken, cycle, samples, below, told, sampled, isBroken, rfl⟩ := abandoned
  rw [List.range_eq_range'] at sampled
  obtain ⟨cycles, rfl, _, areLedgers⟩ := sampled.exists_cycles
  refine ⟨cycles, broken.ledger, below, isBroken.booked, ?_⟩
  rw [ledger_append, ledger_append, ledger_append, told.ledger_eq, areLedgers, List.nil_append]
  rfl

theorem SingleShape.booked_sample {sample : Sample Float}
    (shape : SingleShape reporters patience entry.2 entry.1.name (.ok sample) trace) :
    BookedSample entry sample trace.ledger := by
  obtain ⟨opening, full, closing, timing, told, isFull, rfl, ended, rfl⟩ := shape
  obtain ⟨timings, rfl, isLedger⟩ := isFull.exists_timings
  refine ⟨timings, rfl, ?_⟩
  rw [ledger_append, ledger_append, told.ledger_eq, ended.ledger_eq, isLedger, List.nil_append,
    List.append_nil]

theorem SingleShape.booked_failure {failure : Failure}
    (shape : SingleShape reporters patience entry.2 entry.1.name (.error (.failed failure)) trace) :
    BrokenLedger entry.2 entry.1.name failure trace.ledger := by
  obtain ⟨opening, broken, told, isBroken, rfl⟩ := shape
  rw [ledger_append, told.ledger_eq, List.nil_append]
  exact BrokenCycle.booked isBroken

theorem SingleShape.stuck
    (shape : SingleShape reporters patience entry.2 entry.1.name (.error .unfinished) trace) :
    Stuck patience trace := by
  obtain ⟨opening, endless, _, isEndless, rfl⟩ := shape
  exact (EndlessCycle.stuck isEndless).prepend opening

/-! ### Passes -/

/-- The ledger of a pass with reports. -/
def PassLedger (suite : Suite (StateM ω)) (patience : Nat) :
    Except Halt SuiteResult → Trace → Prop
  | .ok result, trace => Each BookedReport suite.placed result.reports trace.ledger
  | .error (.failed failure), trace =>
    ∃ done entry later reports early late,
      suite.placed = done ++ entry :: later ∧
      Each BookedReport done reports early ∧ BookedFailure entry failure late ∧
      trace.ledger = early ++ late
  | .error .unfinished, trace => Stuck patience trace

/-- The ledger of a pass of single cycles. It has entries about loops and none
about cycles. -/
def SinglesLedger (suite : Suite (StateM ω)) (patience : Nat) :
    Except Halt (List (Sample Float)) → Trace → Prop
  | .ok samples, trace => Each BookedSample suite.placed samples trace.ledger
  | .error (.failed failure), trace =>
    ∃ done entry later samples early late,
      suite.placed = done ++ entry :: later ∧
      Each BookedSample done samples early ∧ BrokenLedger entry.2 entry.1.name failure late ∧
      trace.ledger = early ++ late
  | .error .unfinished, trace => Stuck patience trace

variable {suite : Suite (StateM ω)}

theorem PassShape.booked {answer : Except Halt SuiteResult}
    (shape : PassShape suite patience answer trace) : PassLedger suite patience answer trace := by
  match answer, shape with
  | .ok result, ⟨startNanos, startMillis, endNanos, opening, body, closing, told, measured, ended,
      shown⟩ =>
      have booked : Each BookedReport suite.placed result.reports body.ledger :=
        Each.ledger measured fun _ _ _ holds => holds.reported.booked
      have isBody : trace.ledger = body.ledger := by
        simp [shown, told.ledger_eq, ended.ledger_eq]
      change Each BookedReport suite.placed result.reports trace.ledger
      rw [isBody]
      exact booked
  | .error (.failed failure), ⟨startNanos, startMillis, opening, body, told,
      ⟨done, entry, later, reports, early, late, split, measured, stopped, isBody⟩, shown⟩ =>
      refine ⟨done, entry, later, reports, early.ledger, late.ledger, split,
        measured.ledger fun _ _ _ holds => holds.reported.booked, stopped.abandoned.booked, ?_⟩
      simp [shown, isBody, told.ledger_eq]
  | .error .unfinished, ⟨startNanos, startMillis, opening, body, told,
      ⟨done, entry, later, reports, early, late, _, _, stopped, isBody⟩, shown⟩ =>
      subst shown isBody
      exact stopped.stuck.prepend early |>.prepend opening
        |>.prepend [.nanosRead startNanos, .dayRead startMillis]

theorem InTurn.booked {answer : Except Halt (List (Sample Float))}
    (inTurn : InTurn (fun entry => SingleShape suite.reporters patience entry.2 entry.1.name)
      suite.placed answer trace) : SinglesLedger suite patience answer trace := by
  match answer, inTurn with
  | .ok samples, measured => exact Each.ledger measured fun _ _ _ holds => holds.booked_sample
  | .error (.failed failure),
      ⟨done, entry, later, samples, early, late, split, measured, stopped, shown⟩ =>
      refine ⟨done, entry, later, samples, early.ledger, late.ledger, split,
        measured.ledger fun _ _ _ holds => holds.booked_sample, stopped.booked_failure, ?_⟩
      rw [shown, ledger_append]
  | .error .unfinished,
      ⟨done, entry, later, samples, early, late, _, _, stopped, shown⟩ =>
      subst shown
      exact stopped.stuck.prepend early

end Trace

open Trace

/-- The log accounts for every cycle of a pass. Where a pass returns reports, its
calls and its entries about loops and cycles are, for one kernel after another, those
of ten completed cycles: the calls of either loop and an entry that counts them,
with a minimum that the elapsed time has reached, and an entry for the sample, which
is that of the report and follows from the entry of the second loop. Where a pass
fails, they end with the cycle that breaks off: with the entries of as many of its
loops as have reached their minimum and an entry for the failure that is returned.
Passes of single cycles make the entries about loops and none about cycles. -/
theorem log_accounts_for_cycles
    (host : Host (StateM ω))
    (suite : Suite (StateM ω))
    (patience : Nat) :
    Leaves host suite.kernels (suite.measureAll host patience).run
      (suite.watched.measureAll host.watched patience).run (PassLedger suite patience) ∧
    Leaves host suite.kernels (suite.measureOnce host patience).run
      (suite.watched.measureOnce host.watched patience).run (SinglesLedger suite patience) ∧
    (∀ timing : Timing,
      (timing.micros : Float) =
        1000.0 * Float.ofNat timing.elapsed / Float.ofNat timing.iterations) ∧
    ∀ iterations elapsed minimum cycle micros failure,
      (Log.Entry.loopFinished iterations elapsed minimum).message = "measurement loop finished" ∧
      (Log.Entry.cycleComplete cycle micros).message = "measurement cycle complete" ∧
      (Log.Entry.cycleFailed cycle failure).message = "measurement cycle failed" ∧
      (Log.Entry.cycleFailed cycle failure).fields =
        [("cycle", .count cycle), ("error", .text failure.message)] := by
  refine ⟨?_, ?_, fun _ => rfl, fun _ _ _ _ _ _ => ⟨rfl, rfl, rfl, rfl⟩⟩
  · exact (leaves_measureAll suite patience).mono fun _ _ shape => shape.booked
  · exact (leaves_measureOnce suite patience).mono fun _ _ shape => shape.booked

end Throughput
