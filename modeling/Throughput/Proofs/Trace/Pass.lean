import Throughput.Proofs.Trace.Cycle

/-!
Contract: the trace of a pass over the kernels of a suite.

Owns:
- `Trace.Told`, the shape of a notice that is delivered to a list of
  reporters, one after another;
- the shapes of one cycle of a sample set, of all cycles of a kernel, and of
  a pass in either mode;
- for every function of the suite, the statement that it leaves a trace of its
  shape.

A kernel shows under its place in the list of all registered kernels, whatever
the filter selects.
-/

namespace Throughput

variable {ω : Type}
variable {host : Host (StateM ω)} {kernels : List (Kernel (StateM ω))}
variable {place patience : Nat}

/-- The selected kernels with the places at which they are registered. -/
def Suite.placed {m : Type → Type} [Monad m] (suite : Suite m) : List (Kernel m × Nat) :=
  suite.kernels.zipIdx.filter fun entry => suite.settings.selects entry.1.name

namespace Trace

/-! ### Shapes -/

/-- How an effect shows, with the answer of the output if it is a line. A line
that is refused leaves an entry in the log. -/
def shown : Effect → Option String → Trace
  | .print line, none => [.wrote (line ++ "\n") none]
  | .print line, some reason =>
    [.wrote (line ++ "\n") (some reason), .recorded (.writeFailed reason)]
  | .record entry, _ => [.recorded entry]
  | .capture label notice, _ => [.captured label notice]

/-- Effects carried out in order. -/
def Delivered (effects : List Effect) (trace : Trace) : Prop :=
  ∃ refusals, Each (fun effect refusal part => part = shown effect refusal)
    effects refusals trace

/-- A notice delivered to all reporters of a list, in order. -/
def Told (reporters : List (Reporter Outlet)) (notice : Notice) (trace : Trace) : Prop :=
  Delivered (reporters.flatMap fun reporter => reporter.effects Outlet.effects notice) trace

/-- What a numbered cycle of a sample set leaves. -/
def SampleShape (place : Nat) (name : String) (patience cycle : Nat) :
    Except Halt Float → Trace → Prop
  | .ok micros, trace =>
    ∃ timing full, FullCycle place timing full ∧ micros = timing.micros ∧
      trace = full ++ [.recorded (.cycleComplete cycle micros)]
  | .error (.failed failure), trace =>
    ∃ broken, BrokenCycle place name failure broken ∧
      trace = broken ++ [.recorded (.cycleFailed cycle failure)]
  | .error .unfinished, trace => EndlessCycle place patience trace

/-- What all cycles of one kernel leave, with the notices around them. -/
def KernelShape (reporters : List (Reporter Outlet)) (patience place : Nat) (name : String) :
    Except Halt (Report Float) → Trace → Prop
  | .ok report, trace =>
    ∃ opening body closing samples,
      Told reporters (.kernelStart name) opening ∧
      InTurn (SampleShape place name patience) (List.range sampleCount) (.ok samples) body ∧
      Report.ofSamples name samples = .ok report ∧
      Told reporters (.kernelEnd report) closing ∧
      trace = opening ++ (body ++ closing)
  | .error halt, trace =>
    ∃ opening body,
      Told reporters (.kernelStart name) opening ∧
      InTurn (SampleShape place name patience) (List.range sampleCount)
        (.error halt : Except Halt (List Float)) body ∧
      trace = opening ++ body

/-- What a pass with reports leaves. -/
def PassShape (suite : Suite (StateM ω)) (patience : Nat) :
    Except Halt SuiteResult → Trace → Prop
  | .ok result, trace =>
    ∃ startNanos startMillis endNanos opening body closing,
      Told suite.reporters (.suiteStart suite.name suite.placed.length) opening ∧
      InTurn (fun entry => KernelShape suite.reporters patience entry.2 entry.1.name)
        suite.placed (.ok result.reports) body ∧
      Told suite.reporters (.suiteEnd result) closing ∧
      trace = .nanosRead startNanos :: .dayRead startMillis ::
        (opening ++ (body ++ .nanosRead endNanos :: closing))
  | .error halt, trace =>
    ∃ startNanos startMillis opening body,
      Told suite.reporters (.suiteStart suite.name suite.placed.length) opening ∧
      InTurn (fun entry => KernelShape suite.reporters patience entry.2 entry.1.name)
        suite.placed (.error halt : Except Halt (List (Report Float))) body ∧
      trace = .nanosRead startNanos :: .dayRead startMillis :: (opening ++ body)

/-- What a single cycle of one kernel leaves, with the notices around it. -/
def SingleShape (reporters : List (Reporter Outlet)) (patience place : Nat) (name : String) :
    Except Halt (Sample Float) → Trace → Prop
  | .ok sample, trace =>
    ∃ opening full closing timing,
      Told reporters (.kernelStart name) opening ∧ FullCycle place timing full ∧
      sample = ⟨name, timing.micros⟩ ∧
      Told reporters (.singleSample sample) closing ∧
      trace = opening ++ (full ++ closing)
  | .error halt, trace =>
    ∃ opening body,
      Told reporters (.kernelStart name) opening ∧
      CycleShape place name patience (.error halt) body ∧ trace = opening ++ body

end Trace

open Trace

/-! ### Delivery -/

theorem Reporter.effectsAll_eq_flatMap {φ : Type} (respond : φ → Notice → List Effect)
    (reporters : List (Reporter φ)) (notice : Notice) :
    Reporter.effectsAll respond reporters notice =
      reporters.flatMap fun reporter => reporter.effects respond notice := by
  induction reporters with
  | nil => rfl
  | cons first rest inductionHypothesis =>
      rw [Reporter.effectsAll, inductionHypothesis, List.flatMap_cons]

theorem leaves_perform (effect : Effect) :
    Leaves host kernels (host.perform effect) (host.watched.perform effect)
      (fun _ trace => ∃ refusal, trace = shown effect refusal) := by
  cases effect with
  | print line =>
      have writes : Leaves host kernels (host.write (line ++ "\n"))
          (host.watched.write (line ++ "\n"))
          (fun refusal trace => trace = [.wrote (line ++ "\n") refusal]) :=
        Leaves.watch (.wrote _) fun _ => rfl
      refine (Leaves.bind writes fun refusal => (?_ : Leaves host kernels _ _
        fun _ trace => shown (.print line) refusal =
          .wrote (line ++ "\n") refusal :: trace)).mono ?_
      · cases refusal with
        | none => exact (Leaves.pure ()).mono fun _ _ given => by rw [given.2]; rfl
        | some reason => exact (leaves_record _).mono fun _ _ given => by rw [given]; rfl
      intro _ _ given
      obtain ⟨refusal, _, late, rfl, shown, rfl⟩ := given
      exact ⟨refusal, shown.symm⟩
  | record entry => exact (leaves_record entry).mono fun _ _ given => ⟨none, given⟩
  | capture label notice =>
      have captures : Leaves host kernels (host.capture label notice)
          (host.watched.capture label notice)
          (fun _ trace => trace = [.captured label notice]) :=
        Leaves.watch (fun _ => .captured label notice) fun _ => rfl
      exact captures.mono fun _ _ given => ⟨none, given⟩

theorem leaves_performAll (effects : List Effect) :
    Leaves host kernels (host.performAll effects) (host.watched.performAll effects)
      (fun _ trace => Delivered effects trace) := by
  induction effects with
  | nil => exact (Leaves.pure ()).mono fun _ _ given => ⟨[], by rw [given.2]; exact .nil⟩
  | cons first rest inductionHypothesis =>
      refine (Leaves.bind (leaves_perform first) fun _ => inductionHypothesis).mono ?_
      intro _ _ given
      obtain ⟨_, _, _, ⟨refusal, rfl⟩, ⟨refusals, each⟩, rfl⟩ := given
      exact ⟨refusal :: refusals, .cons rfl each⟩

section Passes

variable {suite : Suite (StateM ω)} {kernel : Kernel (StateM ω)}

theorem leaves_notify (notice : Notice) :
    Leaves host kernels (host.performAll (suite.effects notice))
      (host.watched.performAll (suite.watched.effects notice))
      (fun _ trace => Told suite.reporters notice trace) := by
  have effects_eq : suite.watched.effects notice = suite.effects notice := rfl
  rw [effects_eq]
  refine (leaves_performAll (suite.effects notice)).mono fun _ trace delivered => ?_
  rw [Suite.effects, Reporter.effectsAll_eq_flatMap] at delivered
  exact delivered

/-! ### Cycles of one kernel -/

/-- The answer of a cycle and the entry in the log, from what was measured. -/
private def LoggedShape (cycle : Nat) :
    Except Halt Timing → Except Halt Float → Trace → Prop
  | .ok timing, answer, trace =>
    answer = .ok timing.micros ∧ trace = [.recorded (.cycleComplete cycle timing.micros)]
  | .error (.failed failure), answer, trace =>
    answer = .error (.failed failure) ∧ trace = [.recorded (.cycleFailed cycle failure)]
  | .error .unfinished, answer, trace => answer = .error .unfinished ∧ trace = []

theorem leaves_sampleCycle (registered : kernels[place]? = some kernel) (cycle : Nat) :
    Leaves host kernels (Suite.sampleCycle host patience kernel cycle).run
      (Suite.sampleCycle host.watched patience (kernel.watched place) cycle).run
      (SampleShape place kernel.name patience cycle) := by
  refine (Leaves.bind (leaves_measure registered patience) fun answer =>
    (?_ : Leaves host kernels _ _ (LoggedShape cycle answer))).mono ?_
  · match answer with
    | .ok timing =>
        refine (Leaves.bind (leaves_record (.cycleComplete cycle timing.micros)) fun _ =>
          Leaves.pure (Except.ok timing.micros)).mono ?_
        intro _ _ given
        obtain ⟨_, _, _, rfl, ⟨rfl, rfl⟩, rfl⟩ := given
        exact ⟨rfl, rfl⟩
    | .error (.failed failure) =>
        refine (Leaves.bind (leaves_record (.cycleFailed cycle failure)) fun _ =>
          Leaves.pure (Except.error (Halt.failed failure))).mono ?_
        intro _ _ given
        obtain ⟨_, _, _, rfl, ⟨rfl, rfl⟩, rfl⟩ := given
        exact ⟨rfl, rfl⟩
    | .error .unfinished => exact Leaves.pure (Except.error Halt.unfinished)
  intro answer trace given
  obtain ⟨measured, early, late, cycleShape, entry, rfl⟩ := given
  match measured with
  | .ok timing =>
      obtain ⟨rfl, rfl⟩ := entry
      exact ⟨timing, early, cycleShape, rfl, rfl⟩
  | .error (.failed failure) =>
      obtain ⟨rfl, rfl⟩ := entry
      exact ⟨early, cycleShape, rfl⟩
  | .error .unfinished =>
      obtain ⟨rfl, rfl⟩ := entry
      rw [List.append_nil]
      exact cycleShape

theorem leaves_samplesFrom (registered : kernels[place]? = some kernel)
    (cycle remaining : Nat) :
    Leaves host kernels (Suite.samplesFrom host patience kernel cycle remaining).run
      (Suite.samplesFrom host.watched patience (kernel.watched place) cycle remaining).run
      (InTurn (SampleShape place kernel.name patience) (List.range' cycle remaining)) := by
  induction remaining generalizing cycle with
  | zero =>
      refine (Leaves.pure (Except.ok [])).mono ?_
      intro _ _ given
      obtain ⟨rfl, rfl⟩ := given
      exact .nil
  | succ remaining inductionHypothesis =>
      exact Leaves.inTurn (leaves_sampleCycle registered cycle)
        (inductionHypothesis (cycle + 1))

/-! ### Reports -/

/-- Samples make a report unless there are none. -/
theorem Report.exists_ofSamples {α : Type} [Scalar α] (name : String) {samples : List α}
    (some : samples ≠ []) : ∃ report, Report.ofSamples name samples = .ok report := by
  match samples, some with
  | [_], _ => exact ⟨_, rfl⟩
  | _ :: _ :: _, _ => exact ⟨_, rfl⟩

theorem Report.fields_of_ofSamples {α : Type} [Scalar α] {name : String} {samples : List α}
    {report : Report α} (isReport : Report.ofSamples name samples = .ok report) :
    report.name = name ∧ report.samples = samples := by
  match samples with
  | [] => cases isReport
  | [_] =>
      cases isReport
      exact ⟨rfl, rfl⟩
  | _ :: _ :: _ =>
      cases isReport
      exact ⟨rfl, rfl⟩

/-- A report has a spread and an interval if there are two samples at least. -/
theorem Report.isSome_spread_iff {α : Type} [Scalar α] {name : String} {samples : List α}
    {report : Report α} (isReport : Report.ofSamples name samples = .ok report)
    {figure : Option α}
    (isSpread : figure ∈ [report.summary.standardDeviation, report.summary.standardError,
      report.summary.critical, report.summary.confidencePercent]) :
    figure.isSome = true ↔ 2 ≤ samples.length := by
  match samples with
  | [] => cases isReport
  | [_] =>
      cases isReport
      simp only [List.mem_cons, List.not_mem_nil, or_false, or_self] at isSpread
      rw [isSpread]
      exact iff_of_false Bool.false_ne_true (Nat.not_succ_le_self 1)
  | _ :: _ :: rest =>
      cases isReport
      refine iff_of_true ?_ (Nat.le_add_left 2 rest.length)
      simp only [List.mem_cons, List.not_mem_nil, or_false] at isSpread
      rcases isSpread with rfl | rfl | rfl | rfl <;> rfl

theorem leaves_measureKernel (registered : kernels[place]? = some kernel) :
    Leaves host kernels (suite.measureKernel host patience kernel).run
      (suite.watched.measureKernel host.watched patience (kernel.watched place)).run
      (KernelShape suite.reporters patience place kernel.name) := by
  have cycles :
      Leaves host kernels (Suite.samplesFrom host patience kernel 0 sampleCount).run
        (Suite.samplesFrom host.watched patience (kernel.watched place) 0 sampleCount).run
        (InTurn (SampleShape place kernel.name patience) (List.range sampleCount)) := by
    rw [List.range_eq_range']
    exact leaves_samplesFrom registered 0 sampleCount
  unfold Suite.measureKernel Suite.notify
  refine Leaves.mono
    (Leaves.bindLift (leaves_notify (.kernelStart kernel.name)) fun _ =>
      Leaves.bindExcept cycles fun samples =>
        Leaves.bindExcept
          (Leaves.settled ((Report.ofSamples kernel.name samples).mapError Halt.failed))
          fun report =>
            Leaves.bindLift (leaves_notify (.kernelEnd report)) fun _ =>
              Leaves.pure (Except.ok report)) ?_
  intro answer trace given
  obtain ⟨_, opening, _, told, sampled | ⟨halt, rfl, stopped⟩, rfl⟩ := given
  · obtain ⟨samples, body, _, each, reported, rfl⟩ := sampled
    have nonempty : samples ≠ [] := by
      intro empty
      have counted := each.length_eq
      simp [empty, sampleCount] at counted
    obtain ⟨report, isReport⟩ := Report.exists_ofSamples kernel.name nonempty
    rw [isReport] at reported
    rcases reported with ⟨_, _, _, ⟨⟨⟩, rfl⟩, ⟨_, closing, _, ended, ⟨rfl, rfl⟩, rfl⟩, rfl⟩ |
      ⟨_, _, ⟨⟩, _⟩
    refine ⟨opening, body, closing, samples, told, each, isReport, ended, ?_⟩
    rw [List.nil_append, List.append_nil]
  · exact ⟨opening, _, told, stopped, rfl⟩

/-! ### Passes -/

variable {α : Type}

/-- A pass over kernels at their places, one after another. -/
theorem leaves_measureEach
    {measureOne : Kernel (StateM ω) → ExceptT Halt (StateM ω) α}
    {watchedOne : Kernel (StateM (Watched ω)) → ExceptT Halt (StateM (Watched ω)) α}
    {shape : Kernel (StateM ω) × Nat → Except Halt α → Trace → Prop}
    (entries : List (Kernel (StateM ω) × Nat))
    (each : ∀ entry ∈ entries,
      Leaves host kernels (measureOne entry.1).run (watchedOne (entry.1.watched entry.2)).run
        (shape entry)) :
    Leaves host kernels (Suite.measureEach measureOne (entries.map Prod.fst)).run
      (Suite.measureEach watchedOne (entries.map fun entry => entry.1.watched entry.2)).run
      (InTurn shape entries) := by
  induction entries with
  | nil =>
      refine (Leaves.pure (Except.ok [])).mono ?_
      intro _ _ given
      obtain ⟨rfl, rfl⟩ := given
      exact .nil
  | cons entry entries inductionHypothesis =>
      exact Leaves.inTurn (each entry (List.mem_cons_self ..))
        (inductionHypothesis fun other member => each other (List.mem_cons_of_mem _ member))

theorem Suite.selected_eq_placed (suite : Suite (StateM ω)) :
    suite.selected = suite.placed.map Prod.fst := by
  have names : suite.kernels.zipIdx.map Prod.fst = suite.kernels := List.zipIdx_map_fst ..
  calc
    suite.selected =
        (suite.kernels.zipIdx.map Prod.fst).filter
          fun kernel => suite.settings.selects kernel.name := by rw [names]; rfl
    _ = suite.placed.map Prod.fst := List.filter_map ..

theorem Suite.watched_selected_eq_placed (suite : Suite (StateM ω)) :
    suite.watched.selected = suite.placed.map fun entry => entry.1.watched entry.2 := by
  rw [Suite.selected, Suite.watched, List.filter_map]
  rfl

theorem Suite.registered_of_placed {suite : Suite (StateM ω)} {entry : Kernel (StateM ω) × Nat}
    (member : entry ∈ suite.placed) : suite.kernels[entry.2]? = some entry.1 :=
  List.mk_mem_zipIdx_iff_getElem?.mp (List.mem_filter.mp member).1

theorem leaves_measureAll (suite : Suite (StateM ω)) (patience : Nat) :
    Leaves host suite.kernels (suite.measureAll host patience).run
      (suite.watched.measureAll host.watched patience).run (PassShape suite patience) := by
  have nanos : Leaves host suite.kernels host.nanos host.watched.nanos
      (fun nanos trace => trace = [.nanosRead nanos]) :=
    Leaves.watch .nanosRead fun _ => rfl
  have dayMillis : Leaves host suite.kernels host.dayMillis host.watched.dayMillis
      (fun millis trace => trace = [.dayRead millis]) :=
    Leaves.watch .dayRead fun _ => rfl
  have reports :
      Leaves host suite.kernels
        (Suite.measureEach (suite.measureKernel host patience) (suite.placed.map Prod.fst)).run
        (Suite.measureEach (suite.watched.measureKernel host.watched patience)
          (suite.placed.map fun entry => entry.1.watched entry.2)).run
        (InTurn (fun entry => KernelShape suite.reporters patience entry.2 entry.1.name)
          suite.placed) :=
    leaves_measureEach suite.placed fun entry member =>
      leaves_measureKernel (Suite.registered_of_placed member)
  unfold Suite.measureAll Suite.notify
  rw [Suite.selected_eq_placed, Suite.watched_selected_eq_placed, List.length_map,
    List.length_map]
  refine Leaves.mono
    (Leaves.bindLift nanos fun startNanos => Leaves.bindLift dayMillis fun startMillis =>
      Leaves.bindLift (leaves_notify (.suiteStart suite.name suite.placed.length)) fun _ =>
        Leaves.bindExcept reports fun made => Leaves.bindLift nanos fun endNanos =>
          Leaves.bindLift
            (leaves_notify (.suiteEnd
              (.mk suite.name made (endNanos - startNanos) (toString startMillis)))) fun _ =>
            Leaves.pure (Except.ok (SuiteResult.mk suite.name made (endNanos - startNanos)
              (toString startMillis)))) ?_
  intro answer trace given
  obtain ⟨startNanos, _, _, rfl, timed, rfl⟩ := given
  obtain ⟨startMillis, _, _, rfl, announced, rfl⟩ := timed
  obtain ⟨_, opening, _, told, measured, rfl⟩ := announced
  rcases measured with ⟨made, body, _, inTurn, timed, rfl⟩ | ⟨halt, rfl, stopped⟩
  · obtain ⟨endNanos, _, _, rfl, announced, rfl⟩ := timed
    obtain ⟨_, closing, _, ended, ⟨rfl, rfl⟩, rfl⟩ := announced
    refine ⟨startNanos, startMillis, endNanos, opening, body, closing, told, inTurn, ended, ?_⟩
    rw [List.append_nil]
    rfl
  · exact ⟨startNanos, startMillis, opening, _, told, stopped, rfl⟩

theorem leaves_sampleKernel (registered : kernels[place]? = some kernel) :
    Leaves host kernels (suite.sampleKernel host patience kernel).run
      (suite.watched.sampleKernel host.watched patience (kernel.watched place)).run
      (SingleShape suite.reporters patience place kernel.name) := by
  unfold Suite.sampleKernel Suite.notify
  refine Leaves.mono
    (Leaves.bindLift (leaves_notify (.kernelStart kernel.name)) fun _ =>
      Leaves.bindExcept (leaves_measure registered patience) fun timing =>
        Leaves.bindLift (leaves_notify (.singleSample ⟨kernel.name, timing.micros⟩)) fun _ =>
          Leaves.pure (Except.ok (Sample.mk kernel.name timing.micros))) ?_
  intro answer trace given
  obtain ⟨_, opening, _, told, measured | ⟨halt, rfl, stopped⟩, rfl⟩ := given
  · obtain ⟨timing, full, _, cycle, ⟨_, closing, _, ended, ⟨rfl, rfl⟩, rfl⟩, rfl⟩ := measured
    refine ⟨opening, full, closing, timing, told, cycle, rfl, ended, ?_⟩
    rw [List.append_nil]
  · exact ⟨opening, _, told, stopped, rfl⟩

theorem leaves_measureOnce (suite : Suite (StateM ω)) (patience : Nat) :
    Leaves host suite.kernels (suite.measureOnce host patience).run
      (suite.watched.measureOnce host.watched patience).run
      (InTurn (fun entry => SingleShape suite.reporters patience entry.2 entry.1.name)
        suite.placed) := by
  unfold Suite.measureOnce
  rw [Suite.selected_eq_placed, Suite.watched_selected_eq_placed]
  exact leaves_measureEach suite.placed fun entry member =>
    leaves_sampleKernel (Suite.registered_of_placed member)

end Passes

end Throughput
