import Throughput.Proofs.Trace.Bench
import Throughput.Proofs.Trace.Readings
import Throughput.Rehearsal.Stage

/-!
Contract: the clock of a rehearsal gets on while its time is not at its end.

Owns:
- the step that a cycle is sure to take within its length;
- `OnlySpends`, an action beside the surroundings of a rehearsal that does
  nothing to the clock but let time pass;
- what an event does to the clock, and what the readings of a trace are from any
  of its places on;
- the statement that a trace gets on by the length of the cycle.

Time that has come to its end stands still, so nothing is said from there on.
-/

namespace Throughput.Rehearsal

open Trace (Happens Account firstReadings readingsByStart)

/-- A cycle with a step that is not zero takes one within its length, wherever it
stands. -/
theorem exists_cyclic_ne_zero {cycle : List Nat} (moves : ∃ step ∈ cycle, step ≠ 0)
    (start : Nat) : ∃ ahead < cycle.length, cyclic cycle (start + ahead) ≠ 0 := by
  obtain ⟨step, member, notZero⟩ := moves
  obtain ⟨place, inside, isStep⟩ := List.getElem_of_mem member
  have positive : 0 < cycle.length := Nat.zero_lt_of_lt inside
  have before : start % cycle.length < cycle.length := Nat.mod_lt _ positive
  refine ⟨(place + (cycle.length - start % cycle.length)) % cycle.length,
    Nat.mod_lt _ positive, ?_⟩
  have arrives : (start + (place + (cycle.length - start % cycle.length)) % cycle.length) %
      cycle.length = place := by
    rw [Nat.add_mod_mod, ← Nat.mod_add_mod]
    have around : start % cycle.length + (place + (cycle.length - start % cycle.length)) =
        place + cycle.length := by omega
    rw [around, Nat.add_mod_right, Nat.mod_eq_of_lt inside]
  rw [cyclic, arrives, List.getElem?_eq_getElem inside, isStep]
  exact notZero

variable {σ β : Type}

/-- An action that lets time pass, if it does anything to the clock. -/
def OnlySpends (action : StateM (Bench σ Stage) β) : Prop :=
  ∀ bench, (action.run bench).2.surroundings.clock = bench.surroundings.clock ∨
    ∃ duration,
      (action.run bench).2.surroundings.clock = bench.surroundings.clock.spend duration

/-- A kernel that keeps to its own state takes no time. -/
theorem onlySpends_kernel (actor : Kernel (StateM σ)) (phase : Phase) :
    OnlySpends ((Bench.kernel actor : Kernel (StateM (Bench σ Stage))).step phase).run := by
  rw [Bench.kernel, Kernel.step_hoist]
  exact fun _ => .inl rfl

/-! ### One event -/

/-- What has passed of the time since the origin. -/
def SteppingClock.shown (clock : SteppingClock) : Nat :=
  clock.now - clock.origin

variable {kernels : List (Kernel (StateM (Bench σ Stage)))}
variable {before after : Bench σ Stage} {event : Trace.Event} {trace : Trace}

/-- An event starts the clock, looks at it, or is none of these and only lets
time pass. -/
theorem clock_of_happens
    (spends : ∀ kernel ∈ kernels, ∀ phase, OnlySpends (kernel.step phase).run)
    (happens : Happens (Bench.host Stage.host) kernels before event after) :
    (event = .started ∧ after.surroundings.clock = before.surroundings.clock.restart) ∨
    (event = .looked before.surroundings.clock.look.1 ∧
      after.surroundings.clock = before.surroundings.clock.look.2) ∨
    ((∀ rest, firstReadings (event :: rest) = firstReadings rest ∧
        readingsByStart (event :: rest) = readingsByStart rest) ∧
      (after.surroundings.clock = before.surroundings.clock ∨
        ∃ duration, after.surroundings.clock = before.surroundings.clock.spend duration)) := by
  cases event with
  | started =>
      cases happens
      exact .inl ⟨rfl, rfl⟩
  | looked elapsed =>
      cases happens
      exact .inr (.inl ⟨rfl, rfl⟩)
  | called place phase outcome =>
      obtain ⟨kernel, registered, run⟩ := happens
      have passes := spends kernel (List.mem_of_getElem? registered) phase before
      rw [run] at passes
      exact .inr (.inr ⟨fun _ => ⟨rfl, rfl⟩, passes⟩)
  | wrote text refusal =>
      have kept : (Stage.write before.surroundings text).2.clock = before.surroundings.clock := by
        rw [Stage.write]
        split <;> rfl
      cases happens
      exact .inr (.inr ⟨fun _ => ⟨rfl, rfl⟩, .inl kept⟩)
  | _ =>
      cases happens
      exact .inr (.inr ⟨fun _ => ⟨rfl, rfl⟩, .inl rfl⟩)

/-- Where time is not at its end afterwards, it has passed in full. -/
theorem SteppingClock.spend_now {clock : SteppingClock} {duration : Nat}
    (goesOn : (clock.spend duration).now < latest) :
    (clock.spend duration).now = clock.now + duration := by
  change min (clock.now + duration) latest < latest at goesOn
  exact Nat.min_eq_left (by omega)

/-- A clock that has only let time pass shows no less. -/
theorem SteppingClock.fields_of_kept {clock later : SteppingClock}
    (kept : later = clock ∨ ∃ duration, later = clock.spend duration) :
    later.steps = clock.steps ∧ later.reads = clock.reads ∧ later.origin = clock.origin ∧
      (later.now < latest → clock.now ≤ later.now) := by
  rcases kept with rfl | ⟨duration, rfl⟩
  · exact ⟨rfl, rfl, rfl, fun _ => Nat.le_refl _⟩
  · refine ⟨rfl, rfl, rfl, fun goesOn => ?_⟩
    rw [spend_now goesOn]
    exact Nat.le_add_right ..

/-! ### The readings of a trace -/

/-- Readings that can follow what a clock shows: none is smaller, and one that
comes after a step that is not zero is greater. -/
def SteppingClock.Leads (clock : SteppingClock) (readings : List Nat) : Prop :=
  ∀ index < readings.length, clock.shown ≤ readings.getD index 0 ∧
    ∀ ahead ≤ index, cyclic clock.steps (clock.reads + ahead) ≠ 0 →
      clock.shown < readings.getD index 0

namespace SteppingClock.Leads

variable {clock later : SteppingClock} {readings : List Nat}

theorem nil : clock.Leads [] := nofun

theorem of_shown_le (leads : later.Leads readings) (steps_eq : later.steps = clock.steps)
    (reads_eq : later.reads = clock.reads) (passed : clock.shown ≤ later.shown) :
    clock.Leads readings := by
  intro index inside
  obtain ⟨notSmaller, greater⟩ := leads index inside
  rw [steps_eq, reads_eq] at greater
  exact ⟨Nat.le_trans passed notSmaller,
    fun ahead within notZero => Nat.lt_of_le_of_lt passed (greater ahead within notZero)⟩

/-- A look at the clock, and what follows it. -/
theorem look (leads : clock.look.2.Leads readings) (since : clock.origin ≤ clock.now)
    (goesOn : clock.look.2.now < latest) : clock.Leads (clock.look.1 :: readings) := by
  have now_eq : clock.look.2.now = clock.now + cyclic clock.steps clock.reads := spend_now goesOn
  have shows : clock.look.1 = clock.shown + cyclic clock.steps clock.reads := by
    change clock.look.2.now - clock.origin = clock.now - clock.origin + _
    omega
  have passed : clock.shown ≤ clock.look.1 := shows ▸ Nat.le_add_right ..
  have moved : cyclic clock.steps clock.reads ≠ 0 → clock.shown < clock.look.1 :=
    fun notZero => shows ▸ Nat.lt_add_of_pos_right (Nat.pos_of_ne_zero notZero)
  rintro (_ | index) inside
  · refine ⟨passed, fun ahead within notZero => ?_⟩
    obtain rfl := Nat.le_zero.mp within
    exact moved notZero
  · obtain ⟨notSmaller, greater⟩ := leads index (Nat.lt_of_succ_lt_succ inside)
    refine ⟨Nat.le_trans passed notSmaller, fun ahead within notZero => ?_⟩
    cases ahead with
    | zero => exact Nat.lt_of_lt_of_le (moved notZero) notSmaller
    | succ ahead =>
        have next : clock.look.2.reads + ahead = clock.reads + (ahead + 1) := by
          change clock.reads + 1 + ahead = _
          omega
        have later := greater ahead (Nat.le_of_succ_le_succ within) (next ▸ notZero)
        exact Nat.lt_of_le_of_lt passed later

/-- A whole cycle takes the readings past what the clock shows. -/
theorem lt_getD (leads : clock.Leads readings) (moves : ∃ step ∈ clock.steps, step ≠ 0)
    (within : clock.steps.length ≤ readings.length) :
    clock.shown < (clock.shown :: readings).getD clock.steps.length 0 := by
  obtain ⟨ahead, inside, notZero⟩ := exists_cyclic_ne_zero moves clock.reads
  obtain ⟨index, isLength⟩ := Nat.exists_eq_succ_of_ne_zero (Nat.ne_zero_of_lt inside)
  rw [isLength] at within inside ⊢
  exact (leads index within).2 ahead (Nat.le_of_lt_succ inside) notZero

end SteppingClock.Leads

/-- The readings of a trace get on by the length of the cycle, from each place on
and after each start. -/
theorem getsOn_of_account
    (spends : ∀ kernel ∈ kernels, ∀ phase, OnlySpends (kernel.step phase).run)
    (moves : ∃ step ∈ before.surroundings.clock.steps, step ≠ 0)
    (account : Account (Bench.host Stage.host) kernels before trace after)
    (goesOn : after.surroundings.clock.now < latest) :
    let clock := before.surroundings.clock
    clock.now ≤ after.surroundings.clock.now ∧
    (clock.origin ≤ clock.now →
      clock.Leads trace.firstReadings ∧
      Overtakes clock.steps.length clock.shown trace.firstReadings) ∧
    trace.GetsOn clock.steps.length := by
  have positive : 0 < before.surroundings.clock.steps.length := by
    obtain ⟨step, member, -⟩ := moves
    exact List.length_pos_of_mem member
  -- What is known is the time at the end of the trace, so the induction goes from
  -- there to its beginning: time that is not at its end later was not before.
  induction account with
  | nil => exact ⟨Nat.le_refl _, fun _ => ⟨.nil, .nil positive⟩, nofun⟩
  | @cons before between after event rest happens _ inductionHypothesis =>
      intro clock
      rcases clock_of_happens spends happens with
        ⟨rfl, restarted⟩ | ⟨rfl, looked⟩ | ⟨unread, kept⟩
      · -- The clock is started: it shows zero, and the readings after it are a stretch.
        rw [restarted] at inductionHypothesis
        obtain ⟨notLater, sinceStart, getsOn⟩ := inductionHypothesis moves goesOn positive
        have fromZero : Overtakes clock.steps.length 0 rest.firstReadings := by
          have overtakes := (sinceStart (Nat.le_refl _)).2
          have zero : clock.restart.shown = 0 := Nat.sub_self _
          rw [zero] at overtakes
          exact overtakes
        exact ⟨notLater, fun _ => ⟨.nil, .nil positive⟩,
          List.forall_mem_cons.mpr ⟨fromZero, getsOn⟩⟩
      · -- The clock is looked at: its reading is the next first one.
        rw [looked] at inductionHypothesis
        obtain ⟨notLater, sinceLook, getsOn⟩ := inductionHypothesis moves goesOn positive
        have lookGoesOn : clock.look.2.now < latest := Nat.lt_of_le_of_lt notLater goesOn
        have notBefore : clock.now ≤ clock.look.2.now :=
          (SteppingClock.spend_now lookGoesOn : clock.look.2.now = _) ▸ Nat.le_add_right ..
        refine ⟨Nat.le_trans notBefore notLater, fun since => ?_, getsOn⟩
        obtain ⟨leads, overtakes⟩ := sinceLook (Nat.le_trans since notBefore)
        have leadsToo := leads.look since lookGoesOn
        exact ⟨leadsToo, overtakes.cons (leadsToo.lt_getD moves)⟩
      · -- Time passes: what the clock shows goes up, and no reading is added.
        obtain ⟨steps_eq, reads_eq, origin_eq, now_le⟩ := SteppingClock.fields_of_kept kept
        obtain ⟨first_eq, byStart_eq⟩ := unread rest
        obtain ⟨notLater, sincePassed, getsOn⟩ :=
          inductionHypothesis (steps_eq ▸ moves) goesOn (steps_eq ▸ positive)
        have notBefore := now_le (Nat.lt_of_le_of_lt notLater goesOn)
        rw [Trace.GetsOn, first_eq, byStart_eq]
        rw [steps_eq] at sincePassed getsOn
        refine ⟨Nat.le_trans notBefore notLater, fun since => ?_, getsOn⟩
        obtain ⟨leads, overtakes⟩ := sincePassed (origin_eq ▸ Nat.le_trans since notBefore)
        have passed : clock.shown ≤ between.surroundings.clock.shown := by
          rw [SteppingClock.shown, SteppingClock.shown, origin_eq]
          exact Nat.sub_le_sub_right notBefore _
        have leadsToo : clock.Leads rest.firstReadings :=
          leads.of_shown_le steps_eq reads_eq passed
        exact ⟨leadsToo, overtakes.of_first (leadsToo.lt_getD moves)⟩

/-- So does the trace that any watched action leaves. -/
theorem getsOn_of_leaves {plain : StateM (Bench σ Stage) β}
    {watched : StateM (Watched (Bench σ Stage)) β} {shape : β → Trace → Prop}
    (leaves : Leaves (Bench.host Stage.host) kernels plain watched shape)
    (spends : ∀ kernel ∈ kernels, ∀ phase, OnlySpends (kernel.step phase).run)
    (moves : ∃ step ∈ before.surroundings.clock.steps, step ≠ 0)
    (goesOn : (watched.run ⟨before, []⟩).2.world.surroundings.clock.now < latest) :
    (watched.run ⟨before, []⟩).2.trace.GetsOn before.surroundings.clock.steps.length := by
  obtain ⟨trace, isRun, account, -⟩ := leaves ⟨before, []⟩
  rw [isRun] at goesOn ⊢
  exact (getsOn_of_account spends moves account goesOn).2.2

end Throughput.Rehearsal
