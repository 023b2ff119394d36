import Throughput.Proofs.Paired
import Throughput.Proofs.Trace.Cycle
import Throughput.Proofs.Trace.Ensemble

/-!
Contract: one kernel on its own state, beside the surroundings that hold its
clock.

Owns:
- `Bench`, a world of these two parts, with its host and its kernel;
- `Trace.calls`, the phases that a trace calls, and what they are in the traces
  of a cycle;
- the statement that the state after a trace is what its calls leave, one after
  another, and that a phase with one answer for all states gives it there;
- `Related`, two benches with the same surroundings, and the statement that a
  pair of kernels measured on them stays a pair.
-/

namespace Throughput

namespace Trace

variable {place : Nat}

/-- The phase that an event calls. -/
def Event.phase? : Event → Option Phase
  | .called _ phase _ => some phase
  | _ => none

/-- The phases that are called, in order. -/
def calls (trace : Trace) : List Phase :=
  trace.filterMap Event.phase?

@[simp]
theorem calls_nil : calls [] = [] := rfl

@[simp]
theorem calls_called (phase : Phase) (outcome : Except Fault Unit) (rest : Trace) :
    calls (.called place phase outcome :: rest) = phase :: calls rest := rfl

@[simp]
theorem calls_started (rest : Trace) : calls (.started :: rest) = calls rest := rfl

@[simp]
theorem calls_append (first second : Trace) : calls (first ++ second) = calls first ++ calls second :=
  List.filterMap_append

@[simp]
theorem calls_rounds (phase : Phase) (readings : List Nat) :
    calls (rounds place phase readings) = List.replicate readings.length phase := by
  induction readings with
  | nil => rfl
  | cons reading readings inductionHypothesis =>
      rw [rounds_cons, calls_called, List.length_cons, List.replicate_succ]
      exact congrArg _ inductionHypothesis

@[simp]
theorem calls_loop (phase : Phase) (minimum : Nat) (readings : List Nat) (last : Nat) :
    calls (loop place phase minimum readings last) = List.replicate readings.length phase := by
  change calls (.started :: (rounds place phase readings ++ _)) = _
  rw [calls_started, calls_append, calls_rounds]
  exact List.append_nil _

end Trace

/-- The state of a kernel, and its surroundings. -/
@[ext]
structure Bench (σ κ : Type) where
  state : σ
  surroundings : κ

namespace Bench

variable {σ κ β : Type}

def onState (action : StateM σ β) : StateM (Bench σ κ) β :=
  focus state (fun part whole => { whole with state := part }) action

def onSurroundings (action : StateM κ β) : StateM (Bench σ κ) β :=
  focus surroundings (fun part whole => { whole with surroundings := part }) action

/-- A host that lives in the surroundings. -/
def host (desk : Host (StateM κ)) : Host (StateM (Bench σ κ)) :=
  desk.hoist onSurroundings

def kernel (actor : Kernel (StateM σ)) : Kernel (StateM (Bench σ κ)) :=
  actor.hoist onState

variable {desk : Host (StateM κ)} {actor : Kernel (StateM σ)}
variable {before after : Bench σ κ} {trace : Trace} {place : Nat} {phase : Phase}
variable {outcome : Except Fault Unit}

/-- What a call answers and leaves, from the state on which it is made. -/
theorem called_of_happens
    (happens : Trace.Happens (host desk) [kernel actor] before (.called place phase outcome) after) :
    (actor.step phase).run.run before.state = (outcome, after.state) ∧
      after.surroundings = before.surroundings := by
  obtain ⟨registered, isRegistered, run⟩ := happens
  obtain rfl := List.mem_singleton.mp (List.mem_of_getElem? isRegistered)
  rw [kernel, Kernel.step_hoist] at run
  cases run
  exact ⟨rfl, rfl⟩

theorem state_of_happens {event : Trace.Event}
    (happens : Trace.Happens (host desk) [kernel actor] before event after) :
    after.state =
      (Trace.calls [event]).foldl (fun state phase => ((actor.step phase).run.run state).2)
        before.state := by
  cases event with
  | called place phase outcome =>
      change after.state = ((actor.step phase).run.run before.state).2
      rw [(called_of_happens happens).1]
  | _ =>
      cases happens
      rfl

/-- The state after a trace is what its calls leave, one after another. -/
theorem state_of_account
    (account : Trace.Account (host desk) [kernel actor] before trace after) :
    after.state =
      trace.calls.foldl (fun state phase => ((actor.step phase).run.run state).2) before.state := by
  induction account with
  | nil => rfl
  | @cons before between after event rest happens _ inductionHypothesis =>
      rw [inductionHypothesis, state_of_happens happens, ← List.foldl_append, ← Trace.calls_append]
      rfl

/-- What every call keeps, a trace keeps. -/
theorem keeps_of_account (invariant : σ → Prop)
    (keeps : ∀ phase {state}, invariant state → invariant ((actor.step phase).run.run state).2)
    (account : Trace.Account (host desk) [kernel actor] before trace after)
    (holds : invariant before.state) : invariant after.state := by
  rw [state_of_account account]
  exact List.foldlRecOn _ _ holds fun _ kept phase _ => keeps phase kept

/-- A phase that answers alike on all states answers so in a trace. -/
theorem outcome_eq {answer : Except Fault Unit} {leaves : σ → σ}
    (always : ∀ state, (actor.step phase).run.run state = (answer, leaves state))
    (account : Trace.Account (host desk) [kernel actor] before trace after)
    (member : .called place phase outcome ∈ trace) : outcome = answer := by
  obtain ⟨earlier, later, happens⟩ := account.exists_happens member
  have called := (called_of_happens happens).1
  rw [always earlier.state] at called
  exact (congrArg Prod.fst called).symm

/-! ### Two benches -/

variable {σ' : Type}

/-- Related states in the same surroundings. -/
def Related (related : σ → σ' → Prop) (first : Bench σ κ) (second : Bench σ' κ) : Prop :=
  related first.state second.state ∧ first.surroundings = second.surroundings

variable {related : σ → σ' → Prop}

theorem paired_onSurroundings (action : StateM κ β) :
    Paired (Related related) Eq (onSurroundings action) (onSurroundings action) := by
  intro first second isRelated
  change (action.run first.surroundings).1 = (action.run second.surroundings).1 ∧
    related first.state second.state ∧
      (action.run first.surroundings).2 = (action.run second.surroundings).2
  rw [isRelated.2]
  exact ⟨rfl, isRelated.1, rfl⟩

theorem pairedTiming (desk : Host (StateM κ)) :
    PairedTiming (Related related) (host desk) (host desk) where
  start := paired_onSurroundings _
  elapsed := paired_onSurroundings _
  record := fun _ => paired_onSurroundings _

theorem pairedKernels {actor' : Kernel (StateM σ')} (kernels : PairedKernels related actor actor') :
    PairedKernels (Related (κ := κ) related) (kernel actor) (kernel actor') where
  name_eq := kernels.name_eq
  step := by
    intro phase first second isRelated
    rw [kernel, kernel, Kernel.step_hoist, Kernel.step_hoist]
    have both := kernels.step phase first.state second.state isRelated.1
    exact ⟨both.1, both.2, isRelated.2⟩

/-- Measurements of a pair of kernels give one answer, leave related benches and
show one trace. -/
theorem exists_common_trace {actor' : Kernel (StateM σ')} {before' : Bench σ' κ}
    (kernels : PairedKernels related actor actor') (isRelated : Related related before before')
    (desk : Host (StateM κ)) (patience : Nat) :
    let first := ((kernel actor).measure (host desk) patience).run.run before
    let second := ((kernel actor').measure (host desk) patience).run.run before'
    first.1 = second.1 ∧ Related related first.2 second.2 ∧ ∃ trace,
      Trace.Account (host desk) [kernel actor] before trace first.2 ∧
      (((kernel actor').watched 0).measure (host desk).watched patience).run.run ⟨before', []⟩ =
        (second.1, ⟨second.2, trace⟩) ∧
      Trace.CycleShape 0 actor'.name patience second.1 trace := by
  intro first second
  have isFirst : [(kernel actor : Kernel (StateM (Bench σ κ)))][0]? = some (kernel actor) := rfl
  have isSecond : [(kernel actor' : Kernel (StateM (Bench σ' κ)))][0]? = some (kernel actor') := rfl
  obtain ⟨firstTrace, firstRun, firstAccount, _⟩ :=
    @leaves_measure _ (host desk) _ _ _ isFirst patience ⟨before, []⟩
  obtain ⟨secondTrace, secondRun, _, secondShape⟩ :=
    @leaves_measure _ (host desk) _ _ _ isSecond patience ⟨before', []⟩
  have pair : Paired (WatchedRelated (Related related) some some) (Likewise Eq)
      (((kernel actor).watched 0).measure (host desk).watched patience).run
      (((kernel actor').watched 0).measure (host desk).watched patience).run :=
    measure_paired ((pairedTiming desk).watched fun _ _ => rfl)
      ((pairedKernels kernels).watched fun _ _ => rfl) patience
  obtain ⟨likewise, benches, traces⟩ := pair ⟨before, []⟩ ⟨before', []⟩ ⟨isRelated, rfl⟩
  rw [firstRun, secondRun] at likewise benches traces
  have same : firstTrace = secondTrace := by
    simpa using traces
  subst same
  exact ⟨likewise_eq.mp likewise, benches, firstTrace, firstAccount, secondRun, secondShape⟩

end Bench

end Throughput
