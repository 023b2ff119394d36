import Mathlib.Logic.Function.Iterate
import Throughput.Proofs.Paired

/-!
Contract: a unit of work that is done several times.

Owns:
- the first unit and the rest of a batch, and the batch whose units all succeed
  or whose first one fails;
- the batch of a unit that does the same again;
- the states and the runs between which a batch makes no difference.

A batch ends with the first unit that fails. Whatever is said of a batch is said
here from what holds of one unit.
-/

namespace Throughput

variable {σ : Type} {action : ExceptT Fault (StateM σ) Unit}

theorem repeatTimes_succ_run (count : Nat) (state : σ) :
    (repeatTimes (count + 1) action).run.run state =
      match action.run.run state with
      | (.ok (), next) => (repeatTimes count action).run.run next
      | (.error fault, next) => (.error fault, next) := by
  rw [repeatTimes, ExceptT.run_bind, StateT.run_bind]
  obtain ⟨answer, next⟩ := action.run.run state
  cases answer <;> rfl

/-- States on which a first run does the same are the same for a batch. -/
theorem repeatTimes_congr {first second : σ}
    (same : action.run.run first = action.run.run second) (count : Nat) :
    (repeatTimes (count + 1) action).run.run first =
      (repeatTimes (count + 1) action).run.run second := by
  rw [repeatTimes_succ_run, repeatTimes_succ_run, same]

/-- A unit that does the same where it has just been done is done once, however
often it is called. -/
theorem repeatTimes_of_again {state : σ}
    (again : action.run.run (action.run.run state).2 = action.run.run state) (count : Nat) :
    (repeatTimes (count + 1) action).run.run state = action.run.run state := by
  induction count with
  | zero =>
      rw [repeatTimes_succ_run]
      obtain ⟨answer, next⟩ := action.run.run state
      cases answer <;> rfl
  | succ count inductionHypothesis =>
      have later := (repeatTimes_congr again count).trans inductionHypothesis
      rw [repeatTimes_succ_run]
      cases called : action.run.run state with
      | mk answer next =>
          rw [called] at later
          cases answer with
          | ok _ => exact later
          | error _ => rfl

/-- Units that all succeed, wherever they start. -/
theorem repeatTimes_of_ok {next : σ → σ}
    (succeeds : ∀ state, action.run.run state = (.ok (), next state)) (count : Nat) (state : σ) :
    (repeatTimes count action).run.run state = (.ok (), next^[count] state) := by
  induction count generalizing state with
  | zero => rfl
  | succ count inductionHypothesis =>
      rw [repeatTimes_succ_run, succeeds]
      exact inductionHypothesis (next state)

/-- A batch whose first unit fails is that unit. -/
theorem repeatTimes_of_error {fault : Fault} {state after : σ}
    (fails : action.run.run state = (.error fault, after)) {count : Nat} (positive : 1 ≤ count) :
    (repeatTimes count action).run.run state = (.error fault, after) := by
  obtain ⟨rest, rfl⟩ := Nat.exists_eq_add_of_le' positive
  rw [repeatTimes_succ_run, fails]

theorem repeatTimes_paired {σ' : Type} {related : σ → σ' → Prop}
    {action' : ExceptT Fault (StateM σ') Unit}
    (pair : Paired related (Likewise Eq) action.run action'.run) (count : Nat) :
    Paired related (Likewise Eq) (repeatTimes count action).run (repeatTimes count action').run := by
  induction count with
  | zero => exact Paired.pure rfl
  | succ count inductionHypothesis => exact Paired.bindExcept pair fun _ _ _ => inductionHypothesis

end Throughput
