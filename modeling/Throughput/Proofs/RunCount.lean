import Throughput.Proofs.Lifecycle
import Throughput.Proofs.Repeated
import Throughput.Proofs.Stopping

/-!
Contract: how often a kernel runs of which nothing is given but its run.

Owns:
- `Kernel.minimal`, such a kernel, and `Tallied`, a world beside the outcomes of
  its runs;
- how many runs an event, a trace and a cycle stand for, and what a call that
  fails adds to the outcomes;
- the theorem that says for a cycle and for a pass how often the kernel runs,
  and that its first run that fails is its last.

What a call does inside does not show in a trace. The outcomes of the runs are
therefore kept in the world, where no other kernel and no host gets at them.
-/

namespace Throughput

variable {ω α : Type}

/-- A kernel of which nothing is given but its run. -/
def Kernel.minimal {m : Type → Type} [Monad m] (name : String) (run : ExceptT Fault m Unit) :
    Kernel m where
  name := name
  run := run

/-- A world beside the outcomes of the runs so far. -/
abbrev Tallied (ω : Type) :=
  Bench (List (Except Fault Unit)) ω

/-- A run whose outcome is kept. -/
def tally (run : ExceptT Fault (StateM ω) Unit) : ExceptT Fault (StateM (Tallied ω)) Unit :=
  ExceptT.mk fun before =>
    let (outcome, world) := run.run.run before.surroundings
    (outcome, ⟨before.state ++ [outcome], world⟩)

/-- A kernel of which nothing is kept. -/
def Kernel.untallied (kernel : Kernel (StateM ω)) : Kernel (StateM (Tallied ω)) :=
  kernel.hoist Bench.onSurroundings

/-- How often a kernel runs in a call that succeeds, unless it says otherwise. -/
def Phase.runs : Phase → Nat
  | .setup => 0
  | .warmup => 1
  | .exercise => exerciseRuns
  | .teardown => 0

/-! ### One call -/

section Calls

variable {name : String} {run : ExceptT Fault (StateM ω) Unit} {before : Tallied ω}

theorem tally_run :
    (tally run).run.run before =
      ((run.run.run before.surroundings).1,
        ⟨before.state ++ [(run.run.run before.surroundings).1],
          (run.run.run before.surroundings).2⟩) := rfl

/-- A batch that succeeds has run so often, and one that fails has run up to its
first failure. -/
theorem repeatTimes_tally (count : Nat) :
    let called := (repeatTimes count (tally run)).run.run before
    (called.1 = .ok () ∧ called.2.state = before.state ++ List.replicate count (.ok ())) ∨
    ∃ fault done, called.1 = .error fault ∧ done < count ∧
      called.2.state = before.state ++ (List.replicate done (.ok ()) ++ [.error fault]) := by
  induction count generalizing before with
  | zero => exact .inl ⟨rfl, (List.append_nil _).symm⟩
  | succ count inductionHypothesis =>
      intro called
      have step : called = _ := repeatTimes_succ_run count before
      rw [tally_run] at step
      cases answered : (run.run.run before.surroundings).1 with
      | error fault =>
          rw [answered] at step
          refine .inr ⟨fault, 0, ?_, Nat.succ_pos count, ?_⟩
          · rw [step]
          · rw [step]
            rfl
      | ok _ =>
          rw [answered] at step
          rw [step]
          rcases @inductionHypothesis ⟨before.state ++ [.ok ()], (run.run.run before.surroundings).2⟩
            with ⟨succeeded, kept⟩ | ⟨fault, done, failed, few, kept⟩
          · refine .inl ⟨succeeded, kept.trans ?_⟩
            rw [List.append_assoc, List.replicate_succ]
            rfl
          · refine .inr ⟨fault, done + 1, failed, Nat.succ_lt_succ few, kept.trans ?_⟩
            rw [List.append_assoc, List.replicate_succ]
            rfl

/-- What one call of a minimal kernel keeps. -/
theorem minimal_step (phase : Phase) :
    let called := ((Kernel.minimal name (tally run)).step phase).run.run before
    (called.1 = .ok () ∧ called.2.state = before.state ++ List.replicate phase.runs (.ok ())) ∨
    ∃ fault done, called.1 = .error fault ∧
      (phase = .warmup ∧ done = 0 ∨ phase = .exercise ∧ done < exerciseRuns) ∧
      called.2.state = before.state ++ (List.replicate done (.ok ()) ++ [.error fault]) := by
  cases phase with
  | setup => exact .inl ⟨rfl, (List.append_nil _).symm⟩
  | warmup =>
      intro called
      have step : called = _ := tally_run
      cases answered : (run.run.run before.surroundings).1 with
      | ok _ =>
          rw [answered] at step
          rw [step]
          exact .inl ⟨rfl, rfl⟩
      | error fault =>
          rw [answered] at step
          rw [step]
          exact .inr ⟨fault, 0, rfl, .inl ⟨rfl, rfl⟩, rfl⟩
  | exercise =>
      rcases @repeatTimes_tally _ run before exerciseRuns with
        succeeded | ⟨fault, done, failed, few, kept⟩
      · exact .inl succeeded
      · exact .inr ⟨fault, done, failed, .inr ⟨rfl, few⟩, kept⟩
  | teardown => exact .inl ⟨rfl, (List.append_nil _).symm⟩

end Calls

/-! ### Runs of a trace -/

namespace Trace

/-- How many runs of the kernel at a place an event stands for, if it succeeds. -/
def Event.runs (place : Nat) : Event → Nat
  | .called other phase _ => if other = place then phase.runs else 0
  | _ => 0

/-- How many runs of the kernel at a place a trace stands for. -/
def runs (place : Nat) : Trace → Nat
  | [] => 0
  | event :: rest => event.runs place + runs place rest

variable {place : Nat} {trace : Trace}

@[simp]
theorem runs_nil : runs place [] = 0 := rfl

@[simp]
theorem runs_cons (event : Event) (rest : Trace) :
    runs place (event :: rest) = event.runs place + runs place rest := rfl

@[simp]
theorem runs_append (first second : Trace) :
    runs place (first ++ second) = runs place first + runs place second := by
  induction first with
  | nil => exact (Nat.zero_add _).symm
  | cons event first inductionHypothesis =>
      rw [List.cons_append, runs_cons, runs_cons, inductionHypothesis, Nat.add_assoc]

@[simp]
theorem Event.runs_called (phase : Phase) (outcome : Except Fault Unit) :
    (Event.called place phase outcome).runs place = phase.runs :=
  if_pos rfl

@[simp]
theorem Event.runs_started : Event.started.runs place = 0 := rfl

@[simp]
theorem Event.runs_looked (elapsed : Nat) : (Event.looked elapsed).runs place = 0 := rfl

@[simp]
theorem Event.runs_recorded (entry : Log.Entry) : (Event.recorded entry).runs place = 0 := rfl

@[simp]
theorem runs_rounds (phase : Phase) (readings : List Nat) :
    runs place (rounds place phase readings) = readings.length * phase.runs := by
  induction readings with
  | nil => exact (Nat.zero_mul _).symm
  | cons reading readings inductionHypothesis =>
      rw [rounds_cons, runs_cons, runs_cons, inductionHypothesis, Event.runs_called,
        Event.runs_looked, List.length_cons, Nat.succ_mul]
      omega

@[simp]
theorem runs_loop (phase : Phase) (minimum : Nat) (readings : List Nat) (last : Nat) :
    runs place (loop place phase minimum readings last) = readings.length * phase.runs := by
  simp [loop]

/-- A trace without calls stands for no runs, and none of it fails. -/
theorem runs_of_calls_nil (uncalled : trace.calls = []) :
    trace.runs place = 0 ∧ trace.firstFault = none := by
  induction trace with
  | nil => exact ⟨rfl, rfl⟩
  | cons event rest inductionHypothesis =>
      cases event with
      | called other phase outcome => cases uncalled
      | _ =>
          obtain ⟨noRuns, noFault⟩ := inductionHypothesis uncalled
          exact ⟨(Nat.zero_add _).trans noRuns, noFault⟩

end Trace

open Trace

section Traces

variable {host : Host (StateM ω)} {name : String} {run : ExceptT Fault (StateM ω) Unit}
variable {kernels : List (Kernel (StateM (Tallied ω)))} {place : Nat}
variable {before after : Tallied ω} {event : Trace.Event} {trace : Trace}

/-- The kernels of a pass, of which the one at a place is tallied. -/
structure TalliesAt (kernels : List (Kernel (StateM (Tallied ω)))) (place : Nat) (name : String)
    (run : ExceptT Fault (StateM ω) Unit) : Prop where
  registered : kernels[place]? = some (Kernel.minimal name (tally run))
  others : ∀ other kernel, other ≠ place → kernels[other]? = some kernel →
    ∃ actor : Kernel (StateM ω), kernel = actor.untallied

/-- What the call of a kernel keeps that is not tallied. -/
theorem untallied_state (tallies : TalliesAt kernels place name run) {other : Nat} {phase : Phase}
    {outcome : Except Fault Unit} (isOther : other ≠ place)
    (happens : Happens (Bench.host host) kernels before (.called other phase outcome) after) :
    after.state = before.state := by
  obtain ⟨kernel, registered, called⟩ := happens
  obtain ⟨actor, rfl⟩ := tallies.others other kernel isOther registered
  rw [Kernel.untallied, Kernel.step_hoist] at called
  cases called
  rfl

theorem state_of_event (tallies : TalliesAt kernels place name run)
    (happens : Happens (Bench.host host) kernels before event after) (none : event.fault? = none) :
    after.state = before.state ++ List.replicate (event.runs place) (.ok ()) := by
  cases event with
  | called other phase outcome =>
      by_cases isPlace : other = place
      · subst isPlace
        obtain ⟨kernel, registered, called⟩ := happens
        rw [tallies.registered, Option.some_inj] at registered
        subst registered
        rcases @minimal_step _ name run before phase with
          ⟨-, kept⟩ | ⟨fault, done, failed, -, -⟩
        · rw [called] at kept
          rw [Event.runs_called]
          exact kept
        · rw [called] at failed
          change outcome = .error fault at failed
          subst failed
          cases none
      · rw [untallied_state tallies isPlace happens, Event.runs, if_neg isPlace]
        exact (List.append_nil _).symm
  | _ =>
      cases happens
      exact (List.append_nil _).symm

/-- Without a call that fails, all runs succeed and are as many as the calls
stand for. -/
theorem tally_of_account (tallies : TalliesAt kernels place name run)
    (account : Account (Bench.host host) kernels before trace after)
    (none : trace.firstFault = none) :
    after.state = before.state ++ List.replicate (trace.runs place) (.ok ()) := by
  induction account with
  | nil => exact (List.append_nil _).symm
  | @cons before between after event rest happens _ inductionHypothesis =>
      have noneFirst : event.fault? = Option.none :=
        List.findSome?_eq_none_iff.mp none event (List.mem_cons_self ..)
      have noneRest : Trace.firstFault rest = Option.none := by
        rw [Trace.firstFault, List.findSome?_cons, noneFirst] at none
        exact none
      rw [inductionHypothesis noneRest, state_of_event tallies happens noneFirst, List.append_assoc,
        List.replicate_append_replicate]
      rfl

/-- What a call that fails adds to the outcomes, if it is one of the kernel that
is tallied: its last run fails, and there are less of them than in a call that
succeeds. -/
theorem tally_of_failed (tallies : TalliesAt kernels place name run) {phase : Phase}
    {fault : Fault}
    (happens : Happens (Bench.host host) kernels before (.called place phase (.error fault)) after) :
    ∃ done, (phase = .warmup ∧ done = 0 ∨ phase = .exercise ∧ done < exerciseRuns) ∧
      after.state = before.state ++ (List.replicate done (.ok ()) ++ [.error fault]) := by
  obtain ⟨kernel, registered, called⟩ := happens
  rw [tallies.registered, Option.some_inj] at registered
  subst registered
  rcases @minimal_step _ name run before phase with ⟨succeeded, -⟩ | ⟨other, done, failed, kind, kept⟩
  · rw [called] at succeeded
    cases succeeded
  · rw [called] at failed kept
    cases failed
    exact ⟨done, kind, kept⟩

/-- A trace around its failing call: the runs before it succeed, and none follow. -/
theorem tally_of_split (tallies : TalliesAt kernels place name run) {other : Nat} {phase : Phase}
    {fault : Fault} {done rest : Trace}
    (account : Account (Bench.host host) kernels before
      (done ++ .called other phase (.error fault) :: rest) after)
    (none : done.firstFault = none) (uncalled : rest.calls = []) :
    (other ≠ place ∧
      after.state = before.state ++ List.replicate (done.runs place) (.ok ())) ∨
    (other = place ∧ ∃ more,
      (phase = .warmup ∧ more = 0 ∨ phase = .exercise ∧ more < exerciseRuns) ∧
      after.state =
        before.state ++ (List.replicate (done.runs place + more) (.ok ()) ++ [.error fault])) := by
  obtain ⟨between, doneAccount, failedAccount⟩ := account.exists_between
  cases failedAccount with
  | cons happens restAccount =>
      have early := tally_of_account tallies doneAccount none
      obtain ⟨noRuns, noFault⟩ : rest.runs place = 0 ∧ rest.firstFault = .none :=
        runs_of_calls_nil uncalled
      have late := tally_of_account tallies restAccount noFault
      rw [noRuns, List.replicate_zero, List.append_nil] at late
      rw [late]
      by_cases isPlace : other = place
      · subst isPlace
        obtain ⟨more, kind, kept⟩ := tally_of_failed tallies happens
        refine .inr ⟨rfl, more, kind, ?_⟩
        rw [kept, early, List.append_assoc, ← List.append_assoc (List.replicate _ _),
          List.replicate_append_replicate]
      · exact .inl ⟨isPlace, (untallied_state tallies isPlace happens).trans early⟩

/-- Where the failure stands in outcomes that end with their only one. -/
theorem index_of_error {count index : Nat} {fault last : Fault}
    (isFault : (List.replicate count (Except.ok ()) ++ [Except.error last])[index]? =
      some (.error fault)) : index = count ∧ fault = last := by
  rcases Nat.lt_or_ge index count with early | late
  · rw [List.getElem?_append_left (by rwa [List.length_replicate])] at isFault
    cases List.eq_of_mem_replicate (List.mem_of_getElem? isFault)
  · rw [List.getElem?_append_right (by rwa [List.length_replicate]), List.length_replicate] at isFault
    have isLast : index - count = 0 := by
      have inside := (List.getElem?_eq_some_iff.mp isFault).1
      rw [List.length_singleton] at inside
      omega
    rw [isLast] at isFault
    cases isFault
    exact ⟨by omega, rfl⟩

/-- A run that fails is the last, and the trace has its call. -/
theorem last_of_error (tallies : TalliesAt kernels place name run)
    (account : Account (Bench.host host) kernels before trace after) (started : before.state = [])
    (stops : trace.StopsAtFault) {index : Nat} {fault : Fault}
    (isFault : after.state[index]? = some (.error fault)) :
    after.state.length = index + 1 ∧ ∃ phase, trace.firstFault = some (place, phase, fault) := by
  have noneFails : ∀ count, after.state ≠ before.state ++ List.replicate count (.ok ()) := by
    intro count kept
    rw [kept, started, List.nil_append] at isFault
    cases List.eq_of_mem_replicate (List.mem_of_getElem? isFault)
  match first : trace.firstFault with
  | none => exact absurd (tally_of_account tallies account first) (noneFails _)
  | some (other, phase, fault') =>
      obtain ⟨done, rest, rfl, none, uncalled⟩ := stops.exists_split first
      rcases tally_of_split tallies account none uncalled with
        ⟨-, kept⟩ | ⟨rfl, more, -, kept⟩
      · exact absurd kept (noneFails _)
      · rw [kept, started, List.nil_append] at isFault ⊢
        obtain ⟨rfl, rfl⟩ := index_of_error isFault
        rw [List.length_append, List.length_replicate, List.length_singleton]
        exact ⟨rfl, phase, rfl⟩

end Traces

/-! ### Runs of a cycle -/

namespace Trace

/-- The outcomes of the runs in a cycle that is completed: every round of the first
loop is one run, and every round of the second is ten. -/
def CompletedRuns (place : Nat) (timing : Timing) (outcomes : List (Except Fault Unit))
    (trace : Trace) : Prop :=
  ∃ warmups exercises last, Reaches warmupMillis warmups last ∧
    Reaches exerciseMillis exercises timing.elapsed ∧ timing.iterations = exercises.length ∧
    trace.steps = protocol place warmups exercises ∧
    outcomes = List.replicate (warmups.length + 10 * exercises.length) (.ok ())

/-- The outcomes of the runs in a cycle that breaks off. The last of them alone
fails, in the last call of the trace. This is a warmup if no reading has reached the
minimum of the first loop, and then every round before was one run. Otherwise it is
an exercise, and the run that fails is among its ten. -/
def BrokenRuns (place : Nat) (name : String) (failure : Failure)
    (outcomes : List (Except Fault Unit)) (trace : Trace) : Prop :=
  ∃ (phase : Phase) (fault : Fault) (count : Nat) (done : Trace),
    failure = .kernel name phase fault ∧
    outcomes = List.replicate count (.ok ()) ++ [.error fault] ∧
    trace = done ++ [.called place phase (.error fault)] ∧
    ((phase = .warmup ∧ ∃ warmups, (∀ reading ∈ warmups, reading < warmupMillis) ∧
        done.steps = .called place .setup (.ok ()) :: .started :: rounds place .warmup warmups ∧
        count = warmups.length) ∨
      (phase = .exercise ∧ ∃ warmups exercises last, Reaches warmupMillis warmups last ∧
        (∀ reading ∈ exercises, reading < exerciseMillis) ∧
        done.steps = .called place .setup (.ok ()) :: .started ::
          (rounds place .warmup warmups ++ .started :: rounds place .exercise exercises) ∧
        warmups.length + 10 * exercises.length ≤ count ∧
        count < warmups.length + 10 * (exercises.length + 1)))

variable {host : Host (StateM ω)} {name : String} {run : ExceptT Fault (StateM ω) Unit}
variable {kernels : List (Kernel (StateM (Tallied ω)))} {place : Nat}
variable {before after : Tallied ω} {trace : Trace}

theorem FullCycle.completedRuns {timing : Timing} (full : FullCycle place timing trace)
    (tallies : TalliesAt kernels place name run)
    (account : Account (Bench.host host) kernels before trace after)
    (started : before.state = []) : CompletedRuns place timing after.state trace := by
  have kept := tally_of_account tallies account full.firstFault_eq_none
  obtain @⟨warmups, exercises, last, timing, warm, exercised, counted⟩ := full
  refine ⟨warmups, exercises, last, warm, exercised, counted, by simp [protocol], ?_⟩
  rw [kept, started, List.nil_append]
  congr 1
  simp [Phase.runs, exerciseRuns, Nat.mul_comm]

/-- What the call that fails adds to the outcomes of those before it. -/
private theorem tally_of_last {phase : Phase} {fault : Fault} {done : Trace}
    (tallies : TalliesAt kernels place name run)
    (account : Account (Bench.host host) kernels before
      (done ++ [.called place phase (.error fault)]) after)
    (started : before.state = []) (none : done.firstFault = none) :
    ∃ more, (phase = .warmup ∧ more = 0 ∨ phase = .exercise ∧ more < exerciseRuns) ∧
      after.state = List.replicate (done.runs place + more) (.ok ()) ++ [.error fault] := by
  rcases tally_of_split tallies account none rfl with ⟨isOther, -⟩ | ⟨-, more, kind, kept⟩
  · exact absurd rfl isOther
  · rw [started, List.nil_append] at kept
    exact ⟨more, kind, kept⟩

/-- A setup or a teardown that is not given cannot fail. -/
theorem BrokenCycle.brokenRuns {failure : Failure} (broken : BrokenCycle place name failure trace)
    (tallies : TalliesAt kernels place name run)
    (account : Account (Bench.host host) kernels before trace after)
    (started : before.state = []) : BrokenRuns place name failure after.state trace := by
  obtain ⟨done, phase, fault, isFailure, rfl, none, inWarmup, inExercise⟩ := broken.exists_last
  obtain ⟨more, kind, kept⟩ := tally_of_last tallies account started none
  refine ⟨phase, fault, _, done, isFailure, kept, rfl, ?_⟩
  rcases kind with ⟨isWarmup, rfl⟩ | ⟨isExercise, few⟩
  · obtain ⟨warmups, below, rfl⟩ := inWarmup isWarmup
    refine .inl ⟨isWarmup, warmups, below, by simp, ?_⟩
    simp [Phase.runs]
  · obtain ⟨warmups, exercises, last, warm, below, rfl⟩ := inExercise isExercise
    have counted : runs place (.called place .setup (.ok ()) ::
        (loop place .warmup warmupMillis warmups last ++
          .started :: rounds place .exercise exercises)) =
            warmups.length + 10 * exercises.length := by
      simp [Phase.runs, exerciseRuns, Nat.mul_comm]
    rw [exerciseRuns] at few
    rw [counted]
    exact .inr ⟨isExercise, warmups, exercises, last, warm, below, by simp, by omega, by omega⟩

end Trace

/-! ### The run that keeps nothing -/

/-- The suite with a tallied kernel between kernels of which nothing is kept. -/
def Suite.tallied (suite : Suite (StateM ω)) (kernel : Kernel (StateM (Tallied ω)))
    (later : List (Kernel (StateM ω))) : Suite (StateM (Tallied ω)) where
  name := suite.name
  settings := suite.settings
  kernels := suite.kernels.map Kernel.untallied ++ kernel :: later.map Kernel.untallied
  reporters := suite.reporters

section Untallied

variable {host : Host (StateM ω)} {name : String} {run : ExceptT Fault (StateM ω) Unit}
variable {suite : Suite (StateM ω)} {later : List (Kernel (StateM ω))}

/-- A world, and the same world with outcomes beside it. -/
def Beside (world : ω) (tallied : Tallied ω) : Prop :=
  world = tallied.surroundings

theorem paired_untallied (action : StateM ω α) :
    Paired Beside Eq action (Bench.onSurroundings action) := by
  rintro _ tallied rfl
  exact ⟨rfl, rfl⟩

theorem paired_tally : Paired Beside (Likewise Eq) run.run (tally run).run := by
  rintro _ tallied rfl
  exact ⟨likewise_refl (fun _ => rfl) _, rfl⟩

theorem pairedTiming_untallied : PairedTiming Beside host (Bench.host host) where
  start := paired_untallied _
  elapsed := paired_untallied _
  record := fun _ => paired_untallied _

theorem pairedKernels_untallied (kernel : Kernel (StateM ω)) :
    PairedKernels Beside kernel kernel.untallied where
  name_eq := rfl
  step := by
    intro phase
    rw [Kernel.untallied, Kernel.step_hoist]
    exact (paired_untallied _).mono fun _ _ same => likewise_eq.mpr same

theorem pairedKernels_minimal :
    PairedKernels Beside (Kernel.minimal name run) (Kernel.minimal name (tally run)) where
  name_eq := rfl
  step := by
    intro phase
    cases phase with
    | setup | teardown => exact Paired.pure rfl
    | warmup => exact paired_tally
    | exercise => exact repeatTimes_paired paired_tally exerciseRuns

theorem measureAll_untallied (patience : Nat) :
    Paired Beside (Likewise Eq)
      (Suite.measureAll host patience
        { suite with kernels := suite.kernels ++ Kernel.minimal name run :: later }).run
      ((suite.tallied (Kernel.minimal name (tally run)) later).measureAll (Bench.host host)
        patience).run := by
  -- The kernels of both suites, in pairs.
  let pairs : List (Kernel (StateM ω) × Kernel (StateM (Tallied ω))) :=
    suite.kernels.map (fun kernel => (kernel, kernel.untallied)) ++
      (Kernel.minimal name run, Kernel.minimal name (tally run)) ::
        later.map fun kernel => (kernel, kernel.untallied)
  have paired : ∀ entry ∈ pairs, PairedKernels Beside entry.1 entry.2 := by
    intro entry member
    simp only [pairs, List.mem_append, List.mem_cons, List.mem_map] at member
    rcases member with ⟨kernel, -, rfl⟩ | rfl | ⟨kernel, -, rfl⟩
    · exact pairedKernels_untallied kernel
    · exact pairedKernels_minimal
    · exact pairedKernels_untallied kernel
  have kernels_eq : suite.kernels ++ Kernel.minimal name run :: later = pairs.map Prod.fst := by
    simp [pairs, Function.comp_def]
  have tallied_eq : (suite.tallied (Kernel.minimal name (tally run)) later).kernels =
      pairs.map Prod.snd := by
    simp [pairs, Suite.tallied, Function.comp_def]
  let selects := fun entry : Kernel (StateM ω) × Kernel (StateM (Tallied ω)) =>
    suite.settings.selects entry.1.name
  have selected : Suite.selected
      { suite with kernels := suite.kernels ++ Kernel.minimal name run :: later } =
        (pairs.filter selects).map Prod.fst := by
    rw [Suite.selected, kernels_eq, List.filter_map]
    rfl
  have talliedSelected : (suite.tallied (Kernel.minimal name (tally run)) later).selected =
      (pairs.filter selects).map Prod.snd := by
    rw [Suite.selected, tallied_eq, List.filter_map]
    refine congrArg (List.map Prod.snd) (List.filter_congr fun entry member => ?_)
    exact congrArg suite.settings.selects (paired entry member).name_eq.symm
  have notices : PairedNotices Beside host
      { suite with kernels := suite.kernels ++ Kernel.minimal name run :: later } (Bench.host host)
      (suite.tallied (Kernel.minimal name (tally run)) later) := fun _ =>
    performAll_paired (fun _ => paired_untallied _) (fun _ => paired_untallied _)
      (fun _ _ => paired_untallied _) _
  exact measureAll_paired pairedTiming_untallied notices (paired_untallied _) (paired_untallied _) rfl
    selected talliedSelected (fun entry member => paired entry (List.mem_filter.mp member).1) patience

theorem talliesAt_tallied : TalliesAt
    (suite.tallied (Kernel.minimal name (tally run)) later).kernels suite.kernels.length name
    run where
  registered := by
    rw [Suite.tallied, List.getElem?_append_right (Nat.le_of_eq (List.length_map _)),
      List.length_map, Nat.sub_self]
    rfl
  others := by
    intro other kernel isOther registered
    have member : kernel ∈ suite.kernels.map Kernel.untallied ∨
        kernel ∈ later.map Kernel.untallied := by
      rw [Suite.tallied] at registered
      rcases Nat.lt_or_ge other suite.kernels.length with before | after
      · rw [List.getElem?_append_left (by rwa [List.length_map])] at registered
        exact .inl (List.mem_of_getElem? registered)
      · rw [List.getElem?_append_right (by rwa [List.length_map]), List.length_map] at registered
        obtain ⟨rest, isRest⟩ : ∃ rest, other - suite.kernels.length = rest + 1 :=
          Nat.exists_eq_succ_of_ne_zero (by omega)
        rw [isRest, List.getElem?_cons_succ] at registered
        exact .inr (List.mem_of_getElem? registered)
    rcases member with earlier | isLater
    · obtain ⟨actor, -, rfl⟩ := List.mem_map.mp earlier
      exact ⟨actor, rfl⟩
    · obtain ⟨actor, -, rfl⟩ := List.mem_map.mp isLater
      exact ⟨actor, rfl⟩

theorem talliesAt_single : TalliesAt [Kernel.minimal name (tally run)] 0 name run where
  registered := rfl
  others := by
    intro other kernel isOther registered
    obtain ⟨rest, rfl⟩ := Nat.exists_eq_succ_of_ne_zero isOther
    cases registered

end Untallied

/-- How often a kernel runs of which nothing is given but its run. The run may do
anything to its world and fail at any point; its outcomes are kept beside the world,
and without them the same is done.

A cycle that is completed after `w` rounds of its first loop and `e` of its second
has run `w + 10 * e` times, and a cycle that breaks off has run up to its first
failure. A run that fails is the last one, and its failure is the answer: tagged as
a warmup if no reading has reached the minimum of the first loop, and as an exercise
otherwise. Nothing is called after it, and the clock is not looked at.

The same holds of a whole pass, where the kernel stands among any others and runs
through any number of cycles. -/
theorem minimal_kernel_counts_runs
    (host : Host (StateM ω))
    (name : String)
    (run : ExceptT Fault (StateM ω) Unit)
    (suite : Suite (StateM ω))
    (later : List (Kernel (StateM ω)))
    (patience : Nat)
    (before : ω) :
    let plain : Kernel (StateM ω) := Kernel.minimal name run
    let kept : Kernel (StateM (Tallied ω)) := Kernel.minimal name (tally run)
    (let cycle := (kept.measure (Bench.host host) patience).run.run ⟨[], before⟩
      let outcomes := cycle.2.state
      (plain.measure host patience).run.run before = (cycle.1, cycle.2.surroundings) ∧
      ∃ trace,
        ((kept.watched 0).measure (Bench.host host).watched patience).run.run ⟨⟨[], before⟩, []⟩ =
          (cycle.1, ⟨cycle.2, trace⟩) ∧
        (∀ timing, cycle.1 = .ok timing → CompletedRuns 0 timing outcomes trace) ∧
        (∀ failure, cycle.1 = .error (.failed failure) →
          BrokenRuns 0 name failure outcomes trace) ∧
        ∀ index fault, outcomes[index]? = some (.error fault) →
          outcomes.length = index + 1 ∧
            ∃ phase, cycle.1 = .error (.failed (.kernel name phase fault))) ∧
    (let whole := { suite with kernels := suite.kernels ++ plain :: later }
      let pass := ((suite.tallied kept later).measureAll (Bench.host host) patience).run.run
        ⟨[], before⟩
      let outcomes := pass.2.state
      (whole.measureAll host patience).run.run before = (pass.1, pass.2.surroundings) ∧
      ∀ index fault, outcomes[index]? = some (.error fault) →
        outcomes.length = index + 1 ∧
          ∃ phase, pass.1 = .error (.failed (.kernel name phase fault))) := by
  intro plain kept
  constructor
  · intro cycle outcomes
    obtain ⟨alike, beside⟩ :=
      measure_paired pairedTiming_untallied pairedKernels_minimal patience before ⟨[], before⟩ rfl
    have registered : [kept][0]? = some kept := rfl
    obtain ⟨trace, isRun, account, shape⟩ :=
      @leaves_measure _ (Bench.host host) _ _ _ registered patience ⟨⟨[], before⟩, []⟩
    have isShape : CycleShape 0 name patience cycle.1 trace := shape
    have isAccount : Account (Bench.host host) [kept] ⟨[], before⟩ trace cycle.2 := account
    refine ⟨Prod.ext (likewise_eq.mp alike) beside, trace, isRun, ?_, ?_, ?_⟩
    · intro timing succeeded
      rw [succeeded] at isShape
      exact FullCycle.completedRuns isShape talliesAt_single isAccount rfl
    · intro failure failed
      rw [failed] at isShape
      exact BrokenCycle.brokenRuns isShape talliesAt_single isAccount rfl
    · intro index fault isFault
      obtain ⟨isLast, phase, isFirst⟩ :=
        last_of_error talliesAt_single isAccount rfl isShape.stopsAtFault isFault
      have blames : Blames [(kept, 0)] cycle.1 trace := CycleShape.blames isShape
      obtain ⟨entry, member, -, answer⟩ := blames.eq_of_firstFault isFirst
      obtain rfl := List.mem_singleton.mp member
      exact ⟨isLast, phase, answer⟩
  · intro whole pass outcomes
    obtain ⟨alike, beside⟩ := measureAll_untallied patience before ⟨[], before⟩ rfl
    refine ⟨Prod.ext (likewise_eq.mp alike) beside, fun index fault isFault => ?_⟩
    obtain ⟨trace, -, account, shape⟩ := @leaves_measureAll _ (Bench.host host)
      (suite.tallied kept later) patience ⟨⟨[], before⟩, []⟩
    have isShape : PassShape (suite.tallied kept later) patience pass.1 trace := shape
    have isAccount : Account (Bench.host host) (suite.tallied kept later).kernels ⟨[], before⟩
      trace pass.2 := account
    obtain ⟨isLast, phase, isFirst⟩ :=
      last_of_error talliesAt_tallied isAccount rfl isShape.stopsAtFault isFault
    obtain ⟨entry, member, isPlace, answer⟩ := isShape.blames.eq_of_firstFault isFirst
    have registered := Suite.registered_of_placed member
    rw [isPlace, talliesAt_tallied.registered, Option.some_inj] at registered
    refine ⟨isLast, phase, ?_⟩
    rw [answer, ← registered]
    rfl

end Throughput
