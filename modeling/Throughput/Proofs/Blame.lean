import Throughput.Proofs.Trace.Pass

/-!
Contract: which failure a measurement returns.

Owns:
- `Trace.firstFault`, the first call of a trace that fails;
- `Trace.Blames`, the relation between an answer and a trace in which the
  answer is a failure exactly if a call failed, and then names the kernel, the
  phase and the fault of the first such call;
- the theorem that one cycle, a pass with reports and a pass of single cycles
  all answer so.

No other failure gets out: the minimums of both loops are positive, a set of
samples is never empty, and the failure of a unit of work is always retold as
one of its kernel.
-/

namespace Throughput

variable {ω α β ι : Type} {host : Host (StateM ω)}

namespace Trace

/-- The place, the phase and the fault of a call that fails. -/
def Event.fault? : Event → Option (Nat × Phase × Fault)
  | .called place phase (.error fault) => some (place, phase, fault)
  | _ => none

/-- The place, the phase and the fault of the first call that fails. -/
def firstFault (trace : Trace) : Option (Nat × Phase × Fault) :=
  trace.findSome? Event.fault?

/-- An answer that is a failure exactly if some call failed, and then tells
about the first such call, which is one of a kernel among `entries`. -/
def Blames (entries : List (Kernel (StateM ω) × Nat)) : Except Halt α → Trace → Prop
  | .error (.failed failure), trace =>
    ∃ entry ∈ entries, ∃ phase fault,
      failure = .kernel entry.1.name phase fault ∧
        trace.firstFault = some (entry.2, phase, fault)
  | _, trace => trace.firstFault = none

variable {place patience : Nat} {kernel : Kernel (StateM ω)}
variable {entries : List (Kernel (StateM ω) × Nat)} {trace : Trace}

@[simp]
theorem firstFault_called_ok (phase : Phase) (rest : Trace) :
    firstFault (.called place phase (.ok ()) :: rest) = firstFault rest := rfl

theorem firstFault_append (first second : Trace) :
    (first ++ second).firstFault = first.firstFault.or second.firstFault :=
  List.findSome?_append ..

theorem firstFault_append_eq_none {first second : Trace}
    (none : first.firstFault = .none) (noneElse : second.firstFault = .none) :
    (first ++ second).firstFault = .none := by
  rw [firstFault_append, none, noneElse]
  rfl

theorem firstFault_of_failed {done : Trace} (none : done.firstFault = .none)
    (place : Nat) (phase : Phase) (fault : Fault) :
    firstFault (done ++ [.called place phase (.error fault)]) = some (place, phase, fault) := by
  rw [firstFault_append, none]
  rfl

/-! ### Traces without a failing call -/

theorem firstFault_rounds (phase : Phase) (readings : List Nat) :
    (rounds place phase readings).firstFault = none := by
  induction readings with
  | nil => rfl
  | cons reading readings inductionHypothesis => exact inductionHypothesis

theorem firstFault_loop (phase : Phase) (minimum : Nat) (readings : List Nat) (last : Nat) :
    (loop place phase minimum readings last).firstFault = none := by
  have started : firstFault (.started :: rounds place phase readings) = none :=
    firstFault_rounds phase readings
  exact firstFault_append_eq_none started rfl

theorem FullCycle.firstFault_eq_none {timing : Timing} (full : FullCycle place timing trace) :
    trace.firstFault = none := by
  obtain @⟨warmups, exercises, last, timing, -, -, -⟩ := full
  have exercised :
      firstFault (loop place .exercise exerciseMillis exercises timing.elapsed ++
        [.called place .teardown (.ok ())]) = none :=
    firstFault_append_eq_none (firstFault_loop .exercise exerciseMillis exercises _) rfl
  exact firstFault_append_eq_none (firstFault_loop .warmup warmupMillis warmups last) exercised

theorem EndlessCycle.firstFault_eq_none (endless : EndlessCycle place patience trace) :
    trace.firstFault = none := by
  cases endless with
  | @warmup readings => exact firstFault_rounds .warmup readings
  | @exercise warmups readings last =>
      exact firstFault_append_eq_none (firstFault_loop .warmup warmupMillis warmups last)
        (firstFault_rounds .exercise readings)

/-- Reporters call no kernel. -/
theorem Told.firstFault_eq_none {reporters : List (Reporter Outlet)} {notice : Notice}
    (told : Told reporters notice trace) : trace.firstFault = none := by
  obtain ⟨refusals, each⟩ := told
  generalize reporters.flatMap _ = effects at each
  induction each with
  | nil => rfl
  | @cons effect _ refusal _ _ _ isShown _ inductionHypothesis =>
      subst isShown
      refine firstFault_append_eq_none ?_ inductionHypothesis
      cases effect <;> cases refusal <;> rfl

/-! ### Answers that blame the first failing call -/

/-- What is blamed depends on a trace by its first failing call alone. -/
theorem Blames.congr {answer : Except Halt α} {other : Trace}
    (same : other.firstFault = trace.firstFault) (blames : Blames entries answer trace) :
    Blames entries answer other := by
  match answer, blames with
  | .ok _, given => exact same.trans given
  | .error .unfinished, given => exact same.trans given
  | .error (.failed _), ⟨entry, member, phase, fault, isFailure, given⟩ =>
      exact ⟨entry, member, phase, fault, isFailure, same.trans given⟩

theorem Blames.prepend {answer : Except Halt α} {first : Trace}
    (none : first.firstFault = .none) (blames : Blames entries answer trace) :
    Blames entries answer (first ++ trace) := by
  refine blames.congr ?_
  rw [firstFault_append, none, Option.none_or]

theorem Blames.append {answer : Except Halt α} {last : Trace}
    (blames : Blames entries answer trace) (none : last.firstFault = .none) :
    Blames entries answer (trace ++ last) := by
  refine blames.congr ?_
  rw [firstFault_append, none, Option.or_none]

theorem Blames.among {more : List (Kernel (StateM ω) × Nat)} {answer : Except Halt α}
    (blames : Blames entries answer trace) (among : ∀ entry ∈ entries, entry ∈ more) :
    Blames more answer trace := by
  match answer, blames with
  | .ok _, given => exact given
  | .error .unfinished, given => exact given
  | .error (.failed _), ⟨entry, member, rest⟩ => exact ⟨entry, among entry member, rest⟩

/-- A halt blames the same call, whatever the answer would have been. -/
theorem Blames.retype {halt : Halt}
    (blames : Blames entries (.error halt : Except Halt α) trace) :
    Blames entries (.error halt : Except Halt β) trace := by
  cases halt <;> exact blames

theorem BrokenCycle.blames {failure : Failure}
    (broken : BrokenCycle place kernel.name failure trace) :
    Blames [(kernel, place)] (.error (.failed failure) : Except Halt α) trace := by
  cases broken with
  | setup fault => exact ⟨_, List.mem_singleton_self _, .setup, fault, rfl, rfl⟩
  | @warmup readings fault =>
      refine ⟨_, List.mem_singleton_self _, .warmup, fault, rfl, ?_⟩
      exact firstFault_of_failed (firstFault_rounds .warmup readings) place .warmup fault
  | @exercise warmups readings last fault =>
      refine ⟨_, List.mem_singleton_self _, .exercise, fault, rfl, ?_⟩
      have none :
          firstFault (loop place .warmup warmupMillis warmups last ++
            .started :: rounds place .exercise readings) = .none :=
        firstFault_append_eq_none (firstFault_loop ..) (firstFault_rounds ..)
      simpa using firstFault_of_failed none place .exercise fault
  | @teardown warmups exercises last final fault =>
      refine ⟨_, List.mem_singleton_self _, .teardown, fault, rfl, ?_⟩
      have none :
          firstFault (loop place .warmup warmupMillis warmups last ++
            loop place .exercise exerciseMillis exercises final) = .none :=
        firstFault_append_eq_none (firstFault_loop ..) (firstFault_loop ..)
      simpa using firstFault_of_failed none place .teardown fault

theorem CycleShape.blames {answer : Except Halt Timing}
    (shape : CycleShape place kernel.name patience answer trace) :
    Blames [(kernel, place)] answer trace :=
  match answer, shape with
  | .ok _, full => FullCycle.firstFault_eq_none full
  | .error (.failed _), broken => BrokenCycle.blames broken
  | .error .unfinished, endless => EndlessCycle.firstFault_eq_none endless

theorem SampleShape.blames {cycle : Nat} {answer : Except Halt Float}
    (shape : SampleShape place kernel.name patience cycle answer trace) :
    Blames [(kernel, place)] answer trace := by
  match answer, shape with
  | .ok micros, ⟨timing, full, isFull, _, shown⟩ =>
      subst shown
      exact firstFault_append_eq_none isFull.firstFault_eq_none rfl
  | .error (.failed failure), ⟨broken, isBroken, shown⟩ =>
      subst shown
      exact isBroken.blames.append rfl
  | .error .unfinished, endless => exact EndlessCycle.firstFault_eq_none endless

theorem Each.firstFault_eq_none {shape : ι → α → Trace → Prop} {items : List ι}
    {values : List α} (each : Each shape items values trace)
    (none : ∀ item ∈ items, ∀ value part, shape item value part → part.firstFault = .none) :
    trace.firstFault = .none := by
  refine List.findSome?_eq_none_iff.mpr (each.forall_event fun item member value part holds => ?_)
  exact List.findSome?_eq_none_iff.mp (none item member value part holds)

/-- In a list of items taken in turn, the one that fails is the one to blame. -/
theorem InTurn.blames {shape : ι → Except Halt α → Trace → Prop} {items : List ι}
    {answer : Except Halt (List α)} (inTurn : InTurn shape items answer trace)
    (blames : ∀ item ∈ items, ∀ given part,
      shape item given part → Blames entries given part) :
    Blames entries answer trace := by
  match answer, inTurn with
  | .ok values, each =>
      exact Each.firstFault_eq_none each fun item member value part holds =>
        blames item member _ part holds
  | .error halt, ⟨done, item, later, values, early, late, isItems, each, stopped, shown⟩ =>
      subst isItems shown
      have noneEarly : early.firstFault = none := by
        refine each.firstFault_eq_none fun other member value part holds => ?_
        exact blames other (List.mem_append_left _ member) _ part holds
      refine Blames.prepend noneEarly ?_
      exact (blames item (by simp) _ late stopped).retype

theorem KernelShape.blames {reporters : List (Reporter Outlet)}
    {answer : Except Halt (Report Float)}
    (shape : KernelShape reporters patience place kernel.name answer trace) :
    Blames [(kernel, place)] answer trace := by
  match answer, shape with
  | .ok report, ⟨opening, body, closing, samples, told, sampled, _, ended, shown⟩ =>
      subst shown
      have blamesBody : Blames [(kernel, place)] (.ok samples : Except Halt (List Float)) body :=
        InTurn.blames sampled fun _ _ _ _ holds => holds.blames
      exact firstFault_append_eq_none told.firstFault_eq_none
        (firstFault_append_eq_none blamesBody ended.firstFault_eq_none)
  | .error halt, ⟨opening, body, told, stopped, shown⟩ =>
      subst shown
      refine Blames.prepend told.firstFault_eq_none ?_
      exact (InTurn.blames stopped fun _ _ _ _ holds => holds.blames).retype

theorem SingleShape.blames {reporters : List (Reporter Outlet)}
    {answer : Except Halt (Sample Float)}
    (shape : SingleShape reporters patience place kernel.name answer trace) :
    Blames [(kernel, place)] answer trace := by
  match answer, shape with
  | .ok sample, ⟨opening, full, closing, timing, told, isFull, _, ended, shown⟩ =>
      subst shown
      exact firstFault_append_eq_none told.firstFault_eq_none
        (firstFault_append_eq_none isFull.firstFault_eq_none ended.firstFault_eq_none)
  | .error halt, ⟨opening, body, told, stopped, shown⟩ =>
      subst shown
      exact Blames.prepend told.firstFault_eq_none stopped.blames.retype

theorem PassShape.blames {suite : Suite (StateM ω)} {answer : Except Halt SuiteResult}
    (shape : PassShape suite patience answer trace) : Blames suite.placed answer trace := by
  have blamesBody : ∀ {given : Except Halt (List (Report Float))} {body : Trace},
      InTurn (fun entry => KernelShape suite.reporters patience entry.2 entry.1.name)
        suite.placed given body → Blames suite.placed given body := by
    intro given body inTurn
    refine InTurn.blames inTurn fun entry member answer part holds => ?_
    exact holds.blames.among fun other isOther => List.mem_singleton.mp isOther ▸ member
  match answer, shape with
  | .ok result, ⟨_, _, _, opening, body, closing, told, measured, ended, shown⟩ =>
      subst shown
      have noneBody : body.firstFault = none := blamesBody measured
      exact firstFault_append_eq_none told.firstFault_eq_none
        (firstFault_append_eq_none noneBody ended.firstFault_eq_none)
  | .error halt, ⟨startNanos, startMillis, opening, body, told, stopped, shown⟩ =>
      subst shown
      have blamesRest := Blames.prepend told.firstFault_eq_none (blamesBody stopped)
      have noneTimes : firstFault [.nanosRead startNanos, .dayRead startMillis] = none := rfl
      exact (Blames.prepend noneTimes blamesRest).retype

end Trace

open Trace

/-- A measurement fails exactly if a call of a kernel fails, and then as the
first such call: with the name of the kernel that was called, the phase of the
call, and its fault with all its causes. This holds for a cycle of one kernel
and for both kinds of pass, where the kernel is one that the filter selects.
No other failure is ever returned. -/
theorem failure_is_first_fault
    (host : Host (StateM ω))
    (kernel : Kernel (StateM ω))
    (suite : Suite (StateM ω))
    (patience : Nat) :
    Leaves host [kernel] (kernel.measure host patience).run
        ((kernel.watched 0).measure host.watched patience).run
        (Blames [(kernel, 0)]) ∧
      Leaves host suite.kernels (suite.measureAll host patience).run
        (suite.watched.measureAll host.watched patience).run
        (Blames suite.placed) ∧
      Leaves host suite.kernels (suite.measureOnce host patience).run
        (suite.watched.measureOnce host.watched patience).run
        (Blames suite.placed) := by
  refine ⟨?_, ?_, ?_⟩
  · have registered : [kernel][0]? = some kernel := rfl
    exact (leaves_measure registered patience).mono fun _ _ shape => shape.blames
  · exact (leaves_measureAll suite patience).mono fun _ _ shape => shape.blames
  · refine (leaves_measureOnce suite patience).mono fun _ _ shape => ?_
    refine shape.blames fun entry member answer part holds => ?_
    exact holds.blames.among fun other isOther => List.mem_singleton.mp isOther ▸ member

end Throughput
