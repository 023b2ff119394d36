import Throughput.Proofs.Blame
import Throughput.Proofs.Trace.Bench

/-!
Contract: a failing call of a kernel is the last call of a run.

Owns:
- `Trace.StopsAtFault`, a trace in which no call follows one that fails, and the
  rules by which such traces are put together;
- the statement that one cycle and a pass with reports leave such traces;
- the two stretches of a trace around its failing call.

A trace without a failing call stops at none, and one without calls follows any.
So a trace has to be looked into only where it ends with a failing call.
-/

namespace Throughput

variable {ω α ι : Type}

namespace Trace

/-- After an event that is a failing call comes no event that is a call. -/
def StopsAtFault (trace : Trace) : Prop :=
  trace.Pairwise fun event later => event.fault? = none ∨ later.phase? = none

variable {place patience : Nat} {name : String} {trace first second : Trace}

theorem stopsAtFault_of_none (none : trace.firstFault = .none) : trace.StopsAtFault := by
  rw [StopsAtFault, List.pairwise_iff_forall_sublist]
  intro event later sublist
  exact .inl (List.findSome?_eq_none_iff.mp none event (sublist.subset (List.mem_cons_self ..)))

theorem stopsAtFault_of_calls_nil (uncalled : trace.calls = []) : trace.StopsAtFault := by
  rw [StopsAtFault, List.pairwise_iff_forall_sublist]
  intro event later sublist
  have member : later ∈ trace := sublist.subset (List.mem_cons_of_mem _ (List.mem_singleton_self _))
  exact .inr (List.filterMap_eq_nil_iff.mp uncalled later member)

theorem StopsAtFault.prepend (stops : second.StopsAtFault) (none : first.firstFault = .none) :
    (first ++ second).StopsAtFault := by
  refine List.pairwise_append.mpr ⟨stopsAtFault_of_none none, stops, ?_⟩
  exact fun event member _ _ => .inl (List.findSome?_eq_none_iff.mp none event member)

theorem StopsAtFault.append (stops : first.StopsAtFault) (uncalled : second.calls = []) :
    (first ++ second).StopsAtFault := by
  refine List.pairwise_append.mpr ⟨stops, stopsAtFault_of_calls_nil uncalled, ?_⟩
  exact fun _ _ later member => .inr (List.filterMap_eq_nil_iff.mp uncalled later member)

theorem StopsAtFault.single (event : Event) : StopsAtFault [event] :=
  List.pairwise_singleton _ _

/-- A trace with a failing call, around this call. -/
theorem StopsAtFault.exists_split {phase : Phase} {fault : Fault} (stops : trace.StopsAtFault)
    (isFirst : trace.firstFault = some (place, phase, fault)) :
    ∃ done rest : Trace, trace = done ++ .called place phase (.error fault) :: rest ∧
      done.firstFault = none ∧ rest.calls = [] := by
  obtain ⟨done, event, rest, rfl, isFault, none⟩ := List.findSome?_eq_some_iff.mp isFirst
  obtain ⟨-, stopsLate, -⟩ := List.pairwise_append.mp stops
  have called : event = .called place phase (.error fault) := by
    match event, isFault with
    | .called _ _ (.error _), isFault =>
        cases isFault
        rfl
  subst called
  refine ⟨done, rest, rfl, List.findSome?_eq_none_iff.mpr none, ?_⟩
  refine List.filterMap_eq_nil_iff.mpr fun later member => ?_
  exact ((List.pairwise_cons.mp stopsLate).1 later member).resolve_left nofun

/-- The world between two stretches of a trace. -/
theorem Account.exists_between {host : Host (StateM ω)} {kernels : List (Kernel (StateM ω))}
    {before after : ω} (account : Account host kernels before (first ++ second) after) :
    ∃ between, Account host kernels before first between ∧
      Account host kernels between second after := by
  induction first generalizing before with
  | nil => exact ⟨before, .nil before, account⟩
  | cons event first inductionHypothesis =>
      cases account with
      | cons happens account =>
          obtain ⟨between, early, late⟩ := inductionHypothesis account
          exact ⟨between, .cons happens early, late⟩

/-! ### The traces of a measurement -/

/-- A cycle that breaks off ends with the call that fails, after the rounds of the
loop that it stands in. -/
theorem BrokenCycle.exists_last {failure : Failure}
    (broken : BrokenCycle place name failure trace) :
    ∃ (done : Trace) (phase : Phase) (fault : Fault), failure = .kernel name phase fault ∧
      trace = done ++ [.called place phase (.error fault)] ∧ done.firstFault = none ∧
      (phase = .warmup → ∃ warmups, (∀ reading ∈ warmups, reading < warmupMillis) ∧
        done = .called place .setup (.ok ()) :: .started :: rounds place .warmup warmups) ∧
      (phase = .exercise → ∃ warmups exercises last, Reaches warmupMillis warmups last ∧
        (∀ reading ∈ exercises, reading < exerciseMillis) ∧
        done = .called place .setup (.ok ()) :: (loop place .warmup warmupMillis warmups last ++
          .started :: rounds place .exercise exercises)) := by
  cases broken with
  | setup fault => exact ⟨[], .setup, fault, rfl, rfl, rfl, nofun, nofun⟩
  | @warmup readings fault below =>
      exact ⟨_ :: _ :: rounds place .warmup readings, .warmup, fault, rfl, rfl,
        firstFault_rounds .warmup readings, fun _ => ⟨readings, below, rfl⟩, nofun⟩
  | @exercise warmups readings last fault warm below =>
      refine ⟨_ :: (_ ++ _ :: rounds place .exercise readings), .exercise, fault, rfl, ?_, ?_, nofun,
        fun _ => ⟨warmups, readings, last, warm, below, rfl⟩⟩
      · simp
      · exact firstFault_append_eq_none (firstFault_loop .warmup warmupMillis warmups last)
          (firstFault_rounds .exercise readings)
  | @teardown warmups exercises last final fault =>
      refine ⟨.called place .setup (.ok ()) :: (loop place .warmup warmupMillis warmups last ++
        loop place .exercise exerciseMillis exercises final), .teardown, fault, rfl, ?_, ?_, nofun,
        nofun⟩
      · rw [List.cons_append, List.append_assoc]
      · exact firstFault_append_eq_none (firstFault_loop .warmup warmupMillis warmups last)
          (firstFault_loop .exercise exerciseMillis exercises final)

theorem BrokenCycle.stopsAtFault {failure : Failure}
    (broken : BrokenCycle place name failure trace) : trace.StopsAtFault := by
  obtain ⟨done, phase, fault, -, rfl, none, -, -⟩ := broken.exists_last
  exact (StopsAtFault.single _).prepend none

theorem CycleShape.stopsAtFault {answer : Except Halt Timing}
    (shape : CycleShape place name patience answer trace) : trace.StopsAtFault :=
  match answer, shape with
  | .ok _, full => stopsAtFault_of_none (FullCycle.firstFault_eq_none full)
  | .error (.failed _), broken => BrokenCycle.stopsAtFault broken
  | .error .unfinished, endless => stopsAtFault_of_none (EndlessCycle.firstFault_eq_none endless)

theorem SampleShape.stopsAtFault {cycle : Nat} {answer : Except Halt Float}
    (shape : SampleShape place name patience cycle answer trace) : trace.StopsAtFault := by
  match answer, shape with
  | .ok micros, ⟨timing, full, isFull, _, shown⟩ =>
      subst shown
      exact (stopsAtFault_of_none isFull.firstFault_eq_none).append rfl
  | .error (.failed failure), ⟨broken, isBroken, shown⟩ =>
      subst shown
      exact isBroken.stopsAtFault.append rfl
  | .error .unfinished, endless =>
      exact stopsAtFault_of_none (EndlessCycle.firstFault_eq_none endless)

/-- In a list of items taken in turn, only the last can fail. -/
theorem InTurn.stopsAtFault {shape : ι → Except Halt α → Trace → Prop} {items : List ι}
    {answer : Except Halt (List α)} (inTurn : InTurn shape items answer trace)
    (none : ∀ item ∈ items, ∀ value part, shape item (.ok value) part → part.firstFault = .none)
    (stops : ∀ item ∈ items, ∀ halt part, shape item (.error halt) part → part.StopsAtFault) :
    trace.StopsAtFault := by
  match answer, inTurn with
  | .ok values, each => exact stopsAtFault_of_none (Each.firstFault_eq_none each none)
  | .error halt, ⟨done, item, later, values, early, late, isItems, each, stopped, shown⟩ =>
      subst isItems shown
      refine (stops item (by simp) halt late stopped).prepend ?_
      exact each.firstFault_eq_none fun other member value part holds =>
        none other (List.mem_append_left _ member) value part holds

/-- Answers that blame the first failing call of a trace blame none where they are
values. -/
theorem Blames.none_of_ok {entries : List (Kernel (StateM ω) × Nat)} {value : α}
    (blames : Blames entries (.ok value) trace) : trace.firstFault = none :=
  blames

/-- Where a call fails, the answer is the failure of the first that does. -/
theorem Blames.eq_of_firstFault {entries : List (Kernel (StateM ω) × Nat)}
    {answer : Except Halt α} {phase : Phase} {fault : Fault} (blames : Blames entries answer trace)
    (isFirst : trace.firstFault = some (place, phase, fault)) :
    ∃ entry ∈ entries, entry.2 = place ∧
      answer = .error (.failed (.kernel entry.1.name phase fault)) := by
  match answer, blames with
  | .ok _, given => cases isFirst.symm.trans given
  | .error .unfinished, given => cases isFirst.symm.trans given
  | .error (.failed _), ⟨entry, member, _, _, isFailure, given⟩ =>
      cases isFirst.symm.trans given
      exact ⟨entry, member, rfl, isFailure ▸ rfl⟩

theorem KernelShape.stopsAtFault {reporters : List (Reporter Outlet)} {kernel : Kernel (StateM ω)}
    {answer : Except Halt (Report Float)}
    (shape : KernelShape reporters patience place kernel.name answer trace) :
    trace.StopsAtFault := by
  match answer, shape with
  | .ok report, shape => exact stopsAtFault_of_none shape.blames.none_of_ok
  | .error halt, ⟨opening, body, told, sampled, shown⟩ =>
      subst shown
      have stops : body.StopsAtFault := by
        refine InTurn.stopsAtFault sampled (fun _ _ _ _ holds => ?_) fun _ _ _ _ holds => ?_
        · exact holds.blames.none_of_ok
        · exact holds.stopsAtFault
      exact stops.prepend told.firstFault_eq_none

/-- A pass makes no call after one that fails. -/
theorem PassShape.stopsAtFault {suite : Suite (StateM ω)} {answer : Except Halt SuiteResult}
    (shape : PassShape suite patience answer trace) : trace.StopsAtFault := by
  match answer, shape with
  | .ok result, shape => exact stopsAtFault_of_none shape.blames.none_of_ok
  | .error halt, ⟨startNanos, startMillis, opening, body, told, measured, shown⟩ =>
      subst shown
      have stops : body.StopsAtFault := by
        refine InTurn.stopsAtFault measured (fun _ _ _ _ holds => ?_) fun _ _ _ _ holds => ?_
        · exact holds.blames.none_of_ok
        · exact holds.stopsAtFault
      have noneTimes : firstFault [.nanosRead startNanos, .dayRead startMillis] = none := rfl
      exact (stops.prepend told.firstFault_eq_none).prepend noneTimes

end Trace

end Throughput
