import Throughput.Proofs.Order
import Throughput.Proofs.Trace.Divided

/-!
Contract: what a pass with the built-in reporters prints.

Owns:
- `Trace.texts`, the texts that a trace gives to the output;
- `Divided.printing`, surroundings beside an output that accepts every text;
- `PrintedReports` and `PrintedSamples`, the output that belongs to the answer
  of a pass, one for each mode;
- the theorem that a pass prints what belongs to its answer.

Kernels, the clock and the log do not reach the output, so whatever stands
there was written for a reporter.
-/

namespace Throughput

variable {ω ε α β ι τ : Type}

/-! ### The texts of a trace -/

def Effect.texts : Effect → List String
  | .print line => [line ++ "\n"]
  | _ => []

namespace Trace

def Event.text : Event → Option String
  | .wrote text _ => some text
  | _ => none

/-- The texts that are given to the output, accepted or not. -/
def texts (trace : Trace) : List String :=
  trace.filterMap Event.text

variable {place patience : Nat} {name : String} {trace rest : Trace}

@[simp]
theorem texts_nil : texts [] = [] := rfl

@[simp]
theorem texts_append (first second : Trace) :
    (first ++ second).texts = first.texts ++ second.texts :=
  List.filterMap_append ..

@[simp]
theorem texts_called {phase : Phase} {outcome : Except Fault Unit} :
    texts (.called place phase outcome :: rest) = rest.texts := rfl

@[simp]
theorem texts_started : texts (.started :: rest) = rest.texts := rfl

@[simp]
theorem texts_recorded {entry : Log.Entry} : texts (.recorded entry :: rest) = rest.texts := rfl

@[simp]
theorem texts_nanosRead {nanos : Nat} : texts (.nanosRead nanos :: rest) = rest.texts := rfl

@[simp]
theorem texts_dayRead {millis : Nat} : texts (.dayRead millis :: rest) = rest.texts := rfl

@[simp]
theorem texts_rounds (phase : Phase) (readings : List Nat) :
    texts (rounds place phase readings) = [] := by
  induction readings with
  | nil => rfl
  | cons reading readings inductionHypothesis => exact inductionHypothesis

@[simp]
theorem texts_loop (phase : Phase) (minimum : Nat) (readings : List Nat) (last : Nat) :
    texts (loop place phase minimum readings last) = [] := by
  simp [loop]

theorem FullCycle.texts_eq {timing : Timing} (full : FullCycle place timing trace) :
    trace.texts = [] := by
  cases full
  simp

theorem BrokenCycle.texts_eq {failure : Failure} (broken : BrokenCycle place name failure trace) :
    trace.texts = [] := by
  cases broken <;> simp

theorem EndlessCycle.texts_eq (endless : EndlessCycle place patience trace) :
    trace.texts = [] := by
  cases endless <;> simp

theorem SampleShape.texts_eq {cycle : Nat} {answer : Except Halt Float}
    (shape : SampleShape place name patience cycle answer trace) : trace.texts = [] := by
  match answer, shape with
  | .ok _, ⟨_, full, isFull, _, shown⟩ => simp [shown, isFull.texts_eq]
  | .error (.failed failure), ⟨broken, isBroken, shown⟩ => simp [shown, isBroken.texts_eq]
  | .error .unfinished, endless => exact EndlessCycle.texts_eq endless

theorem Each.texts_eq {shape : ι → α → Trace → Prop} {items : List ι} {values : List α}
    (each : Each shape items values trace) (lines : α → List String)
    (prints : ∀ item value part, shape item value part → part.texts = lines value) :
    trace.texts = values.flatMap lines := by
  induction each with
  | nil => rfl
  | cons holds _ inductionHypothesis =>
      rw [texts_append, prints _ _ _ holds, inductionHypothesis, List.flatMap_cons]

theorem Each.texts_eq_map {shape : ι → α → Trace → Prop} {items : List ι} {values : List α}
    (each : Each shape items values trace) (line : α → String)
    (prints : ∀ item value part, shape item value part → part.texts = [line value]) :
    trace.texts = values.map line := by
  rw [each.texts_eq (fun value => [line value]) prints, ← List.map_eq_flatMap]

theorem InTurn.texts_eq_of_mute {shape : ι → Except ε α → Trace → Prop} {items : List ι}
    {answer : Except ε (List α)} (inTurn : InTurn shape items answer trace)
    (mute : ∀ item given part, shape item given part → part.texts = []) : trace.texts = [] := by
  have silent : ∀ {items values part}, Each (fun item value => shape item (.ok value))
      items values part → part.texts = [] := by
    intro items values part each
    rw [each.texts_eq (fun _ => []) fun item value => mute item (.ok value)]
    simp
  match answer, inTurn with
  | .ok values, each => exact silent each
  | .error error, ⟨done, item, later, values, early, late, _, each, stopped, shown⟩ =>
      rw [shown, texts_append, silent each, mute item (.error error) late stopped]
      rfl

theorem Delivered.texts_eq {effects : List Effect} (delivered : Delivered effects trace) :
    trace.texts = effects.flatMap Effect.texts := by
  obtain ⟨refusals, each⟩ := delivered
  induction each with
  | nil => rfl
  | @cons effect _ refusal _ _ _ isShown _ inductionHypothesis =>
      have printed : (shown effect refusal).texts = effect.texts := by
        cases effect <;> cases refusal <;> rfl
      rw [texts_append, isShown, printed, inductionHypothesis, List.flatMap_cons]

theorem Told.texts_eq {reporters : List (Reporter Outlet)} {notice : Notice}
    (told : Told reporters notice trace) :
    trace.texts = reporters.flatMap fun reporter =>
      (reporter.effects Outlet.effects notice).flatMap Effect.texts := by
  rw [Delivered.texts_eq told, List.flatMap_assoc]

end Trace

/-! ### The built-in reporters -/

/-- The suite of some kernels with the reporters that its settings ask for. -/
def Suite.builtIn {m : Type → Type} [Monad m] (name : String) (settings : Settings)
    (kernels : List (Kernel m)) : Suite m :=
  { (Suite.empty name settings : Suite m) with kernels }

namespace Settings

variable (settings : Settings)

def reportText (report : Report Float) : String :=
  (if settings.json then report.json.line else report.line) ++ "\n"

def sampleText (sample : Sample Float) : String :=
  (if settings.json then sample.json.line else sample.line) ++ "\n"

/-- What closes the output of a pass that has succeeded: a line with the number
of its reports, among JSON lines, and nothing on the console. -/
def footerTexts (result : SuiteResult) : List String :=
  if settings.json then
    [Json.line (.record
      [("suite", .text result.suite),
        ("kernels", .count result.reports.length),
        ("total_nanos", .count result.totalNanos),
        ("started_at", .text result.startedAt)]) ++ "\n"]
  else
    []

/-- What is printed for a notice. -/
def noticeTexts : Notice → List String
  | .kernelEnd report => [settings.reportText report]
  | .singleSample sample => [settings.sampleText sample]
  | .suiteEnd result => settings.footerTexts result
  | _ => []

end Settings

theorem Outlet.texts_log (notice : Notice) :
    (Outlet.effects .log notice).flatMap Effect.texts = [] := by
  cases notice <;> rfl

/-- The outlet that settings choose prints what the settings say. -/
theorem Settings.texts_chosen (settings : Settings) (notice : Notice) :
    (Outlet.effects (if settings.json then .json else .console) notice).flatMap Effect.texts =
      settings.noticeTexts notice := by
  unfold noticeTexts reportText sampleText footerTexts
  by_cases isJson : settings.json = true
  · simp only [if_pos isJson]
    cases notice <;> rfl
  · simp only [if_neg isJson]
    cases notice <;> rfl

namespace Trace

variable {settings : Settings} {name kernelName : String} {trace : Trace} {place patience : Nat}
variable {kernels : List (Kernel (StateM ω))}

theorem Told.texts_builtIn {notice : Notice}
    (told : Told (Suite.builtIn name settings kernels).reporters notice trace) :
    trace.texts = settings.noticeTexts notice := by
  rw [told.texts_eq]
  change (Outlet.effects .log notice).flatMap Effect.texts ++
    ((Outlet.effects (if settings.json then .json else .console) notice).flatMap Effect.texts ++
      []) = _
  rw [Outlet.texts_log, settings.texts_chosen, List.append_nil]
  rfl

theorem KernelShape.texts_of_ok {report : Report Float}
    (shape : KernelShape (Suite.builtIn name settings kernels).reporters patience place kernelName
      (.ok report) trace) : trace.texts = [settings.reportText report] := by
  obtain ⟨opening, body, closing, samples, told, sampled, _, ended, rfl⟩ := shape
  have mute : body.texts = [] := sampled.texts_eq_of_mute fun _ _ _ holds => holds.texts_eq
  rw [texts_append, texts_append, told.texts_builtIn, mute, ended.texts_builtIn]
  rfl

theorem KernelShape.texts_of_error {halt : Halt}
    (shape : KernelShape (Suite.builtIn name settings kernels).reporters patience place kernelName
      (.error halt) trace) : trace.texts = [] := by
  obtain ⟨opening, body, told, stopped, rfl⟩ := shape
  have mute : body.texts = [] := stopped.texts_eq_of_mute fun _ _ _ holds => holds.texts_eq
  rw [texts_append, told.texts_builtIn, mute]
  rfl

theorem SingleShape.texts_of_ok {sample : Sample Float}
    (shape : SingleShape (Suite.builtIn name settings kernels).reporters patience place kernelName
      (.ok sample) trace) : trace.texts = [settings.sampleText sample] := by
  obtain ⟨opening, full, closing, timing, told, cycle, _, ended, rfl⟩ := shape
  rw [texts_append, texts_append, told.texts_builtIn, cycle.texts_eq, ended.texts_builtIn]
  rfl

theorem SingleShape.texts_of_error {halt : Halt}
    (shape : SingleShape (Suite.builtIn name settings kernels).reporters patience place kernelName
      (.error halt) trace) : trace.texts = [] := by
  obtain ⟨opening, body, told, stopped, rfl⟩ := shape
  have mute : body.texts = [] := by
    match halt, stopped with
    | .failed failure, broken => exact BrokenCycle.texts_eq broken
    | .unfinished, endless => exact EndlessCycle.texts_eq endless
  rw [texts_append, told.texts_builtIn, mute]
  rfl

end Trace

/-! ### Passes -/

open Trace

/-- The output before and after a pass with reports, for its answer. What is
added are the reports of the kernels that were measured for ten cycles: all of
those that are selected, or those before the one at which the pass ends. -/
def PrintedReports (suite : Suite (StateM ω)) (patience : Nat) (earlier after : String) :
    Except Halt SuiteResult → Trace → Prop
  | .ok result, trace =>
    ∃ opening body closing,
      Each (Reported suite.reporters) suite.placed result.reports body ∧
      trace = opening ++ (body ++ closing) ∧
      after = earlier ++ String.join
        (result.reports.map suite.settings.reportText ++ suite.settings.footerTexts result)
  | .error halt, trace =>
    ∃ opening early late done entry later reports,
      suite.placed = done ++ entry :: later ∧
      Each (Reported suite.reporters) done reports early ∧
      KernelShape suite.reporters patience entry.2 entry.1.name (.error halt) late ∧
      trace = opening ++ (early ++ late) ∧
      after = earlier ++ String.join (reports.map suite.settings.reportText)

/-- The output before and after a pass of single cycles, for its answer. -/
def PrintedSamples (suite : Suite (StateM ω)) (patience : Nat) (earlier after : String) :
    Except Halt (List (Sample Float)) → Trace → Prop
  | .ok samples, trace =>
    Each (fun entry sample => SingleShape suite.reporters patience entry.2 entry.1.name (.ok sample))
      suite.placed samples trace ∧
    after = earlier ++ String.join (samples.map suite.settings.sampleText)
  | .error halt, trace =>
    ∃ early late done entry later samples,
      suite.placed = done ++ entry :: later ∧
      Each
        (fun entry sample => SingleShape suite.reporters patience entry.2 entry.1.name (.ok sample))
        done samples early ∧
      SingleShape suite.reporters patience entry.2 entry.1.name (.error halt) late ∧
      trace = early ++ late ∧
      after = earlier ++ String.join (samples.map suite.settings.sampleText)

section Shapes

variable {settings : Settings} {name : String} {patience : Nat} {trace : Trace}
variable {kernels : List (Kernel (StateM ω))} {earlier : String}

theorem PassShape.printed {answer : Except Halt SuiteResult}
    (shape : PassShape (Suite.builtIn name settings kernels) patience answer trace) :
    PrintedReports (Suite.builtIn name settings kernels) patience earlier
      (earlier ++ String.join trace.texts) answer trace := by
  match answer, shape with
  | .ok result, ⟨startNanos, startMillis, endNanos, opening, body, closing, told, measured, ended,
      shown⟩ =>
      have reports : body.texts = result.reports.map settings.reportText :=
        Each.texts_eq_map measured _ fun _ _ _ holds => holds.texts_of_ok
      have texts : trace.texts =
          result.reports.map settings.reportText ++ settings.footerTexts result := by
        simp [shown, told.texts_builtIn, reports, ended.texts_builtIn, Settings.noticeTexts]
      refine ⟨.nanosRead startNanos :: .dayRead startMillis :: opening, body,
        .nanosRead endNanos :: closing, measured, shown, ?_⟩
      rw [texts]
      rfl
  | .error halt, ⟨startNanos, startMillis, opening, _, told,
      ⟨done, entry, later, reports, early, late, split, measured, stopped, rfl⟩, shown⟩ =>
      have printed : early.texts = reports.map settings.reportText :=
        measured.texts_eq_map _ fun _ _ _ holds => holds.texts_of_ok
      have texts : trace.texts = reports.map settings.reportText := by
        simp [shown, told.texts_builtIn, printed, stopped.texts_of_error, Settings.noticeTexts]
      refine ⟨.nanosRead startNanos :: .dayRead startMillis :: opening, early, late, done, entry,
        later, reports, split, measured, stopped, shown, ?_⟩
      rw [texts]
      rfl

theorem printedSamples_of_inTurn {answer : Except Halt (List (Sample Float))}
    (inTurn : InTurn
      (fun entry => SingleShape (Suite.builtIn name settings kernels).reporters patience entry.2
        entry.1.name)
      (Suite.builtIn name settings kernels).placed answer trace) :
    PrintedSamples (Suite.builtIn name settings kernels) patience earlier
      (earlier ++ String.join trace.texts) answer trace := by
  match answer, inTurn with
  | .ok samples, measured =>
      have texts : trace.texts = samples.map settings.sampleText :=
        Each.texts_eq_map measured _ fun _ _ _ holds => holds.texts_of_ok
      refine ⟨measured, ?_⟩
      rw [texts]
      rfl
  | .error halt, ⟨done, entry, later, samples, early, late, split, measured, stopped, shown⟩ =>
      have printed : early.texts = samples.map settings.sampleText :=
        measured.texts_eq_map _ fun _ _ _ holds => holds.texts_of_ok
      have texts : trace.texts = samples.map settings.sampleText := by
        rw [shown, texts_append, printed, stopped.texts_of_error, List.append_nil]
      refine ⟨early, late, done, entry, later, samples, split, measured, stopped, shown, ?_⟩
      rw [texts]
      rfl

end Shapes

/-! ### An output that accepts every text -/

namespace Divided

/-- Surroundings beside an output. The output accepts every text, and nothing
but writing changes it. -/
def printing (surroundings : Host (StateM τ)) : Host (StateM (Divided τ String)) where
  start := onMeasured surroundings.start
  elapsed := onMeasured surroundings.elapsed
  write := fun text => onReported (modifyGet fun output => (none, output ++ text))
  record := fun entry => onMeasured (surroundings.record entry)
  capture := fun label notice => onMeasured (surroundings.capture label notice)
  dayMillis := onMeasured surroundings.dayMillis
  nanos := onMeasured surroundings.nanos

variable {surroundings : Host (StateM τ)} {actors : List (Kernel (StateM τ))}

theorem reported_of_happens {before after : Divided τ String} {event : Event}
    (happens : Happens (printing surroundings) (actors.map kernel) before event after) :
    after.reported = before.reported ++ String.join (texts [event]) := by
  -- Every event but a written text is an action on the measured part.
  have unchanged : ∀ {β : Type} {action : StateM τ β} {answer : β},
      (onMeasured action).run before = (answer, after) → after.reported = before.reported := by
    rintro β action answer ⟨⟩
    rfl
  cases event with
  | wrote text refusal =>
      cases happens
      change before.reported ++ text = before.reported ++ String.join [text]
      rw [String.join_cons, String.join_nil, String.append_empty]
  | called place phase outcome =>
      obtain ⟨_, registered, run⟩ := happens
      rw [List.getElem?_map, Option.map_eq_some_iff] at registered
      obtain ⟨actor, _, rfl⟩ := registered
      rw [kernel, Kernel.step_hoist] at run
      change _ = before.reported ++ ""
      rw [String.append_empty]
      exact unchanged run
  | _ =>
      change _ = before.reported ++ ""
      rw [String.append_empty]
      exact unchanged happens

theorem reported_of_account {before after : Divided τ String} {trace : Trace}
    (account : Account (printing surroundings) (actors.map kernel) before trace after) :
    after.reported = before.reported ++ String.join trace.texts := by
  induction account with
  | nil => simp
  | @cons _ _ _ event rest happens _ inductionHypothesis =>
      have first := reported_of_happens happens
      have texts : Trace.texts (event :: rest) = Trace.texts [event] ++ Trace.texts rest :=
        texts_append [event] rest
      rw [inductionHypothesis, first, texts, String.join_append, String.append_assoc]

/-- What stands in the output agrees with what is returned. A pass with the
built-in reporters, whatever its settings and its kernels, prints the reports
that it returns, in order, and closes with a footer where it is to print JSON.
If it fails, it has printed the reports of the kernels before the one at which
it ends, and no footer. Passes of single cycles print samples in this way, and
never a footer. Verbosity makes no difference. -/
theorem output_agrees
    (surroundings : Host (StateM τ))
    (actors : List (Kernel (StateM τ)))
    (name : String)
    (settings : Settings)
    (patience : Nat)
    (before : Divided τ String) :
    let here := printing surroundings
    let suite : Suite (StateM (Divided τ String)) :=
      Suite.builtIn name settings (actors.map kernel)
    let full := (suite.measureAll here patience).run.run before
    let single := (suite.measureOnce here patience).run.run before
    (∃ trace,
      (suite.watched.measureAll here.watched patience).run.run ⟨before, []⟩ =
        (full.1, ⟨full.2, trace⟩) ∧
      PrintedReports suite patience before.reported full.2.reported full.1 trace) ∧
    (∃ trace,
      (suite.watched.measureOnce here.watched patience).run.run ⟨before, []⟩ =
        (single.1, ⟨single.2, trace⟩) ∧
      PrintedSamples suite patience before.reported single.2.reported single.1 trace) ∧
    ∀ verbose,
      let other : Suite (StateM (Divided τ String)) :=
        Suite.builtIn name (settings.withVerbose verbose) (actors.map kernel)
      (other.measureAll here patience).run.run before = full ∧
        (other.measureOnce here patience).run.run before = single := by
  intro here suite full single
  refine ⟨?_, ?_, fun _ => ⟨rfl, rfl⟩⟩
  · obtain ⟨trace, watchedRun, account, shape⟩ :=
      @leaves_measureAll _ here suite patience ⟨before, []⟩
    refine ⟨trace, watchedRun, ?_⟩
    rw [reported_of_account account]
    exact PassShape.printed shape
  · obtain ⟨trace, watchedRun, account, shape⟩ :=
      @leaves_measureOnce _ here suite patience ⟨before, []⟩
    refine ⟨trace, watchedRun, ?_⟩
    rw [reported_of_account account]
    exact printedSamples_of_inTurn shape

end Divided

end Throughput
