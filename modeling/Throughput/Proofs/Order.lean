import Throughput.Proofs.Patience
import Throughput.Proofs.Trace.Ensemble
import Throughput.Proofs.Trace.Pass

/-!
Contract: the order of a pass over the kernels of a suite.

Owns:
- `Trace.Reported`, a kernel that is measured and reported, and
  `Trace.Abandoned`, the kernel at which a pass ends;
- `Trace.CallsOnly`, the statement that a trace calls none but some kernels;
- the theorem that a pass is made of these: reported kernels in order, then
  either the end of the suite or one abandoned kernel and nothing more.
-/

namespace Throughput

namespace Trace

variable {ω ε α ι : Type}

/-- The cycle of a sample set with a number, completed and logged. -/
def Sampled (place cycle : Nat) (micros : Float) (trace : Trace) : Prop :=
  ∃ timing full, FullCycle place timing full ∧ micros = timing.micros ∧
    trace = full ++ [.recorded (.cycleComplete cycle micros)]

/-- A kernel from the notice of its start to the notice of its report, which
is made of the samples of ten full cycles in order. -/
def Reported (reporters : List (Reporter Outlet)) (entry : Kernel (StateM ω) × Nat)
    (report : Report Float) (trace : Trace) : Prop :=
  ∃ opening body closing samples,
    Told reporters (.kernelStart entry.1.name) opening ∧
    Each (Sampled entry.2) (List.range 10) samples body ∧
    Report.ofSamples entry.1.name samples = .ok report ∧
    Told reporters (.kernelEnd report) closing ∧
    trace = opening ++ (body ++ closing)

/-- A kernel from the notice of its start to the first of its cycles that
breaks off, which is the last thing to happen but for an entry in the log. -/
def Abandoned (reporters : List (Reporter Outlet)) (entry : Kernel (StateM ω) × Nat)
    (failure : Failure) (trace : Trace) : Prop :=
  ∃ opening body broken cycle samples, cycle < 10 ∧
    Told reporters (.kernelStart entry.1.name) opening ∧
    Each (Sampled entry.2) (List.range cycle) samples body ∧
    BrokenCycle entry.2 entry.1.name failure broken ∧
    trace = opening ++ (body ++ (broken ++ [.recorded (.cycleFailed cycle failure)]))

/-- A trace calls no kernels but those at some places. -/
def CallsOnly (allowed : Nat → Prop) (trace : Trace) : Prop :=
  ∀ event ∈ trace, ∀ place phase outcome, event = .called place phase outcome → allowed place

variable {allowed : Nat → Prop} {place patience : Nat} {trace : Trace}

@[simp]
theorem callsOnly_nil : CallsOnly allowed [] := by
  simp [CallsOnly]

@[simp]
theorem callsOnly_append {first second : Trace} :
    CallsOnly allowed (first ++ second) ↔ CallsOnly allowed first ∧ CallsOnly allowed second :=
  List.forall_mem_append

@[simp]
theorem callsOnly_called {phase : Phase} {outcome : Except Fault Unit} :
    CallsOnly allowed (.called place phase outcome :: trace) ↔
      allowed place ∧ CallsOnly allowed trace := by
  refine List.forall_mem_cons.trans (and_congr_left fun _ => ?_)
  constructor
  · exact fun calls => calls place phase outcome rfl
  · rintro isAllowed _ _ _ ⟨⟩
    exact isAllowed

/-- An event that is no call may stand anywhere. -/
theorem callsOnly_cons {event : Event} (noCall : ∀ place phase outcome,
    event ≠ .called place phase outcome) :
    CallsOnly allowed (event :: trace) ↔ CallsOnly allowed trace := by
  refine List.forall_mem_cons.trans (and_iff_right fun place phase outcome isCall => ?_)
  exact absurd isCall (noCall place phase outcome)

@[simp]
theorem callsOnly_started :
    CallsOnly allowed (.started :: trace) ↔ CallsOnly allowed trace :=
  callsOnly_cons (by simp)

@[simp]
theorem callsOnly_recorded {entry : Log.Entry} :
    CallsOnly allowed (.recorded entry :: trace) ↔ CallsOnly allowed trace :=
  callsOnly_cons (by simp)

theorem CallsOnly.mono {wider : Nat → Prop} (calls : CallsOnly allowed trace)
    (widens : ∀ place, allowed place → wider place) : CallsOnly wider trace :=
  fun event member place phase outcome isCall =>
    widens place (calls event member place phase outcome isCall)

@[simp]
theorem callsOnly_rounds (phase : Phase) (readings : List Nat) :
    CallsOnly (· = place) (rounds place phase readings) := by
  induction readings with
  | nil => exact callsOnly_nil
  | cons reading readings inductionHypothesis =>
      rw [rounds_cons, callsOnly_called, callsOnly_cons (by simp)]
      exact ⟨rfl, inductionHypothesis⟩

@[simp]
theorem callsOnly_loop (phase : Phase) (minimum : Nat) (readings : List Nat) (last : Nat) :
    CallsOnly (· = place) (loop place phase minimum readings last) := by
  rw [loop, List.cons_append, callsOnly_started]
  simp

theorem FullCycle.callsOnly {timing : Timing} (full : FullCycle place timing trace) :
    CallsOnly (· = place) trace := by
  cases full
  simp

theorem BrokenCycle.callsOnly {name : String} {failure : Failure}
    (broken : BrokenCycle place name failure trace) : CallsOnly (· = place) trace := by
  cases broken <;> simp

theorem EndlessCycle.callsOnly (endless : EndlessCycle place patience trace) :
    CallsOnly (· = place) trace := by
  cases endless <;> simp

theorem Told.callsOnly {reporters : List (Reporter Outlet)} {notice : Notice}
    (told : Told reporters notice trace) : CallsOnly allowed trace := by
  obtain ⟨refusals, each⟩ := told
  refine each.forall_event fun effect _ refusal part isShown => ?_
  subst isShown
  cases effect <;> cases refusal <;> simp [shown]

theorem SampleShape.callsOnly {name : String} {cycle : Nat} {answer : Except Halt Float}
    (shape : SampleShape place name patience cycle answer trace) :
    CallsOnly (· = place) trace := by
  match answer, shape with
  | .ok _, ⟨timing, full, isFull, _, shown⟩ => simp [shown, isFull.callsOnly]
  | .error (.failed failure), ⟨broken, isBroken, shown⟩ => simp [shown, isBroken.callsOnly]
  | .error .unfinished, endless => exact EndlessCycle.callsOnly endless

theorem Each.callsOnly {shape : ι → α → Trace → Prop} {items : List ι} {values : List α}
    (each : Each shape items values trace)
    (calls : ∀ item ∈ items, ∀ value part, shape item value part → CallsOnly allowed part) :
    CallsOnly allowed trace :=
  each.forall_event calls

theorem InTurn.callsOnly {shape : ι → Except ε α → Trace → Prop} {items : List ι}
    {answer : Except ε (List α)} (inTurn : InTurn shape items answer trace)
    (calls : ∀ item ∈ items, ∀ given part, shape item given part → CallsOnly allowed part) :
    CallsOnly allowed trace := by
  match answer, inTurn with
  | .ok values, each =>
      exact Each.callsOnly each fun item member value part holds =>
        calls item member (.ok value) part holds
  | .error error, ⟨done, item, later, values, early, late, isItems, each, stopped, shown⟩ =>
      subst isItems shown
      refine callsOnly_append.mpr ⟨each.callsOnly fun other member value part holds => ?_,
        calls item (by simp) _ late stopped⟩
      exact calls other (List.mem_append_left _ member) (.ok value) part holds

theorem KernelShape.callsOnly {reporters : List (Reporter Outlet)} {name : String}
    {answer : Except Halt (Report Float)}
    (shape : KernelShape reporters patience place name answer trace) :
    CallsOnly (· = place) trace := by
  match answer, shape with
  | .ok report, ⟨opening, body, closing, samples, told, sampled, _, ended, shown⟩ =>
      have bodyCalls : CallsOnly (· = place) body :=
        sampled.callsOnly fun _ _ _ _ holds => holds.callsOnly
      simp [shown, told.callsOnly, bodyCalls, ended.callsOnly]
  | .error halt, ⟨opening, body, told, stopped, shown⟩ =>
      have bodyCalls : CallsOnly (· = place) body :=
        stopped.callsOnly fun _ _ _ _ holds => holds.callsOnly
      simp [shown, told.callsOnly, bodyCalls]

/-! ### The parts of a pass -/

/-- The numbers before one of a range are the smaller ones. -/
private theorem eq_range_of_range_eq {count item : Nat} {done later : List Nat}
    (split : List.range count = done ++ item :: later) :
    done = List.range item ∧ item < count := by
  have inRange : done.length < count := by
    have lengths := congrArg List.length split
    simp only [List.length_range, List.length_append, List.length_cons] at lengths
    omega
  have isItem : item = done.length := by
    have entries := congrArg (fun numbers => numbers[done.length]?) split
    simpa [List.getElem?_range inRange] using entries.symm
  have isDone := congrArg (List.take done.length) split
  rw [List.take_range, List.take_left, Nat.min_eq_left (Nat.le_of_lt inRange)] at isDone
  exact ⟨isItem ▸ isDone.symm, isItem ▸ inRange⟩

variable {reporters : List (Reporter Outlet)} {entry : Kernel (StateM ω) × Nat}

theorem KernelShape.reported {report : Report Float}
    (shape : KernelShape reporters patience entry.2 entry.1.name (.ok report) trace) :
    Reported reporters entry report trace :=
  shape

theorem KernelShape.abandoned {failure : Failure}
    (shape : KernelShape reporters patience entry.2 entry.1.name (.error (.failed failure)) trace) :
    Abandoned reporters entry failure trace := by
  obtain ⟨opening, _, told, stopped, rfl⟩ := shape
  obtain ⟨done, cycle, later, samples, body, _, split, sampled, ⟨broken, isBroken, rfl⟩, rfl⟩ :=
    stopped
  obtain ⟨rfl, below⟩ := eq_range_of_range_eq split
  exact ⟨opening, body, broken, cycle, samples, below, told, sampled, isBroken, rfl⟩

theorem KernelShape.stuck
    (shape : KernelShape reporters patience entry.2 entry.1.name (.error .unfinished) trace) :
    Stuck patience trace := by
  obtain ⟨opening, _, _, stopped, rfl⟩ := shape
  obtain ⟨_, _, _, _, body, late, _, _, endless, rfl⟩ := stopped
  exact (EndlessCycle.stuck endless).prepend body |>.prepend opening

end Trace

open Trace

/-- No two selected kernels have one place. -/
theorem Suite.nodup_places {ω : Type} (suite : Suite (StateM ω)) :
    (suite.placed.map Prod.snd).Nodup := by
  have inOrder : (suite.kernels.zipIdx.map Prod.snd).Nodup := by
    rw [List.zipIdx_map_snd]
    exact List.nodup_range'
  exact inOrder.sublist (List.filter_sublist.map Prod.snd)

theorem Suite.place_notMem_of_later {ω : Type} (suite : Suite (StateM ω))
    {done later : List (Kernel (StateM ω) × Nat)} {entry other : Kernel (StateM ω) × Nat}
    (split : suite.placed = done ++ entry :: later) (member : other ∈ later) :
    other.2 ∉ (done ++ [entry]).map Prod.snd := by
  have distinct := suite.nodup_places
  rw [split, List.append_cons, List.map_append, List.nodup_append] at distinct
  intro isEarlier
  exact distinct.2.2 _ isEarlier _ (List.mem_map_of_mem member) rfl

/-- A pass that stops at a kernel has called none of the kernels after it. -/
theorem Suite.uncalled_of_stopped {ω : Type} (suite : Suite (StateM ω))
    {done later : List (Kernel (StateM ω) × Nat)} {entry other : Kernel (StateM ω) × Nat}
    {notice : Notice} {patience : Nat} {reports : List (Report Float)} {halt : Halt}
    {opening early late : Trace}
    (split : suite.placed = done ++ entry :: later) (member : other ∈ later)
    (told : Told suite.reporters notice opening)
    (measured : Each
      (fun kernel report =>
        KernelShape suite.reporters patience kernel.2 kernel.1.name (.ok report))
      done reports early)
    (stopped : KernelShape suite.reporters patience entry.2 entry.1.name (.error halt) late)
    (phase : Phase) (outcome : Except Fault Unit) :
    .called other.2 phase outcome ∉ opening ++ (early ++ late) := by
  have within : ∀ kernel ∈ done ++ [entry], ∀ answer part,
      KernelShape suite.reporters patience kernel.2 kernel.1.name answer part →
        CallsOnly (· ∈ (done ++ [entry]).map Prod.snd) part := by
    intro kernel isMember _ _ holds
    refine holds.callsOnly.mono fun place isPlace => ?_
    exact isPlace ▸ List.mem_map_of_mem isMember
  have earlyCalls := measured.callsOnly fun kernel isDone report part holds =>
    within kernel (List.mem_append_left _ isDone) (.ok report) part holds
  have lateCalls := within entry (by simp) _ late stopped
  have calls : CallsOnly (· ∈ (done ++ [entry]).map Prod.snd) (opening ++ (early ++ late)) := by
    rw [callsOnly_append, callsOnly_append]
    exact ⟨told.callsOnly, earlyCalls, lateCalls⟩
  intro isCalled
  have isEarlier := calls _ isCalled _ phase outcome rfl
  exact suite.place_notMem_of_later split member isEarlier

namespace Ensemble

variable {κ : Type} {σ : Nat → Type}

/-- A pass over the kernels of an ensemble, whatever they do, takes place in
this order. The reporters are told of the suite; every selected kernel is
measured for ten cycles and reported; the reporters are told of the end, and
the reports are returned. If a cycle fails, its failure is returned at once:
the kernel is not reported, no kernel after it is called or changed, and no
end is told. What is finished is the same for every greater patience. -/
theorem measureAll_order
    (surroundings : Host (StateM κ))
    (actors : (place : Nat) → Kernel (StateM (σ place × κ)))
    (count : Nat)
    (name : String)
    (settings : Settings)
    (reporters : List (Reporter Outlet))
    (patience : Nat)
    (before : Watched (Ensemble κ σ)) :
    let suite : Suite (StateM (Ensemble κ σ)) :=
      { name, settings, kernels := kernels actors count, reporters }
    let run := (suite.measureAll (host surroundings) patience).run.run before.world
    (∀ more, patience ≤ more →
      Agrees (suite.measureAll (host surroundings) patience)
        (suite.measureAll (host surroundings) more)) ∧
    ∃ trace,
      (suite.watched.measureAll (host surroundings).watched patience).run.run before =
          (run.1, ⟨run.2, before.trace ++ trace⟩) ∧
        match run.1 with
        | .ok result =>
          ∃ startNanos startMillis endNanos opening body closing,
            Told reporters (.suiteStart name suite.selected.length) opening ∧
            Each (Reported reporters) suite.placed result.reports body ∧
            Told reporters (.suiteEnd result) closing ∧
            trace = .nanosRead startNanos :: .dayRead startMillis ::
              (opening ++ (body ++ .nanosRead endNanos :: closing))
        | .error (.failed failure) =>
          ∃ startNanos startMillis opening done entry later reports early late,
            Told reporters (.suiteStart name suite.selected.length) opening ∧
            suite.placed = done ++ entry :: later ∧
            Each (Reported reporters) done reports early ∧
            Abandoned reporters entry failure late ∧
            trace = .nanosRead startNanos :: .dayRead startMillis ::
              (opening ++ (early ++ late)) ∧
            ∀ other ∈ later,
              (∀ phase outcome, .called other.2 phase outcome ∉ trace) ∧
              run.2.states other.2 = before.world.states other.2
        | .error .unfinished => Stuck patience trace := by
  intro suite run
  have leaves : Leaves (host surroundings) (kernels actors count)
      (suite.measureAll (host surroundings) patience).run
      (suite.watched.measureAll (host surroundings).watched patience).run
      (PassShape suite patience) :=
    leaves_measureAll suite patience
  obtain ⟨trace, watchedRun, account, shape⟩ := leaves before
  have selectedCount : suite.placed.length = suite.selected.length := by
    rw [Suite.selected_eq_placed, List.length_map]
  refine ⟨fun more enough => suite.measureAll_agrees (host surroundings) enough, trace,
    watchedRun, ?_⟩
  change PassShape suite patience run.1 trace at shape
  match answer : run.1 with
  | .ok result =>
      rw [answer] at shape
      obtain ⟨startNanos, startMillis, endNanos, opening, body, closing, told, measured, ended,
        shown⟩ := shape
      rw [selectedCount] at told
      exact ⟨startNanos, startMillis, endNanos, opening, body, closing, told,
        measured.mono fun _ _ _ _ holds => holds.reported, ended, shown⟩
  | .error (.failed failure) =>
      rw [answer] at shape
      obtain ⟨startNanos, startMillis, opening, _, told,
        ⟨done, entry, later, reports, early, late, split, measured, stopped, rfl⟩, shown⟩ := shape
      rw [selectedCount] at told
      refine ⟨startNanos, startMillis, opening, done, entry, later, reports, early, late, told,
        split, measured.mono fun _ _ _ _ holds => holds.reported, stopped.abandoned, shown,
        fun other member => ?_⟩
      have uncalled : ∀ phase outcome, .called other.2 phase outcome ∉ trace := by
        intro phase outcome
        rw [shown, List.mem_cons, List.mem_cons]
        have rest := suite.uncalled_of_stopped split member told measured stopped phase outcome
        simpa using rest
      exact ⟨uncalled, states_of_account account uncalled⟩
  | .error .unfinished =>
      rw [answer] at shape
      obtain ⟨startNanos, startMillis, opening, _, _,
        ⟨done, entry, later, reports, early, late, _, _, stopped, rfl⟩, rfl⟩ := shape
      exact stopped.stuck.prepend early |>.prepend opening
        |>.prepend [.nanosRead startNanos, .dayRead startMillis]

end Ensemble

end Throughput
