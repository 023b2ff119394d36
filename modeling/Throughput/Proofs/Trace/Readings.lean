import Mathlib.Data.List.GetD
import Throughput.Proofs.Trace.Cycle

/-!
Contract: what a clock shows in the course of a trace, from one start to the
next.

Owns:
- `Trace.readingsByStart`, the readings after each start of the clock, and what
  they are in the traces of a cycle;
- `Overtakes`, readings each of which is exceeded by the one that comes a fixed
  number of looks later, and how many of them can stay below a minimum;
- `Trace.GetsOn`, a trace whose readings do so after every start.

The number of looks is the only measure of a loop that goes down in each round:
a reading may stay where it is for many rounds.
-/

namespace Throughput

namespace Trace

/-- The readings up to the first start of the clock. -/
def firstReadings : Trace → List Nat
  | [] => []
  | .started :: _ => []
  | .looked elapsed :: rest => elapsed :: firstReadings rest
  | _ :: rest => firstReadings rest

/-- The readings after each start of the clock, up to the next. -/
def readingsByStart : Trace → List (List Nat)
  | [] => []
  | .started :: rest => firstReadings rest :: readingsByStart rest
  | _ :: rest => readingsByStart rest

section

variable {place : Nat} {phase : Phase} (readings : List Nat) (rest : Trace)

@[simp]
theorem firstReadings_called (outcome : Except Fault Unit) :
    firstReadings (.called place phase outcome :: rest) = firstReadings rest := rfl

@[simp]
theorem firstReadings_recorded (entry : Log.Entry) :
    firstReadings (.recorded entry :: rest) = firstReadings rest := rfl

@[simp]
theorem firstReadings_started : firstReadings (.started :: rest) = [] := rfl

@[simp]
theorem firstReadings_nil : firstReadings [] = [] := rfl

@[simp]
theorem readingsByStart_nil : readingsByStart [] = [] := rfl

@[simp]
theorem readingsByStart_called (outcome : Except Fault Unit) :
    readingsByStart (.called place phase outcome :: rest) = readingsByStart rest := rfl

@[simp]
theorem readingsByStart_recorded (entry : Log.Entry) :
    readingsByStart (.recorded entry :: rest) = readingsByStart rest := rfl

@[simp]
theorem readingsByStart_started :
    readingsByStart (.started :: rest) = firstReadings rest :: readingsByStart rest := rfl

@[simp]
theorem firstReadings_rounds_append :
    firstReadings (rounds place phase readings ++ rest) = readings ++ firstReadings rest := by
  induction readings with
  | nil => rfl
  | cons reading readings inductionHypothesis => exact congrArg (reading :: ·) inductionHypothesis

@[simp]
theorem readingsByStart_rounds_append :
    readingsByStart (rounds place phase readings ++ rest) = readingsByStart rest := by
  induction readings with
  | nil => rfl
  | cons reading readings inductionHypothesis => exact inductionHypothesis

@[simp]
theorem readingsByStart_loop_append (minimum last : Nat) :
    readingsByStart (loop place phase minimum readings last ++ rest) =
      (readings ++ firstReadings rest) :: readingsByStart rest := by
  simp [loop]

@[simp]
theorem firstReadings_loop_append (minimum last : Nat) :
    firstReadings (loop place phase minimum readings last ++ rest) = [] := rfl

@[simp]
theorem firstReadings_rounds : firstReadings (rounds place phase readings) = readings := by
  simpa using @firstReadings_rounds_append place phase readings []

@[simp]
theorem readingsByStart_rounds : readingsByStart (rounds place phase readings) = [] := by
  simpa using @readingsByStart_rounds_append place phase readings []

end

end Trace

/-! ### Readings that get on -/

/-- From a first reading on, each reading is exceeded by the one that comes
`period` looks later. -/
def Overtakes (period first : Nat) (readings : List Nat) : Prop :=
  ∀ index, index + period ≤ readings.length →
    (first :: readings).getD index 0 < (first :: readings).getD (index + period) 0

/-- After every start of the clock, the readings get on from zero. -/
def Trace.GetsOn (period : Nat) (trace : Trace) : Prop :=
  ∀ readings ∈ trace.readingsByStart, Overtakes period 0 readings

namespace Overtakes

variable {period first other minimum : Nat} {readings short : List Nat}

theorem nil (periodPos : 0 < period) : Overtakes period first [] := by
  intro index within
  rw [List.length_nil] at within
  omega

/-- Another first reading, if it is exceeded in its turn. -/
theorem of_first (overtakes : Overtakes period other readings)
    (exceeded : period ≤ readings.length → first < (first :: readings).getD period 0) :
    Overtakes period first readings := by
  intro index within
  cases index with
  | zero =>
      rw [Nat.zero_add] at within ⊢
      exact exceeded within
  | succ index =>
      have later := overtakes (index + 1) within
      rw [Nat.succ_add, List.getD_cons_succ, List.getD_cons_succ] at later ⊢
      exact later

theorem cons (overtakes : Overtakes period other readings)
    (exceeded : period ≤ (other :: readings).length →
      first < (first :: other :: readings).getD period 0) :
    Overtakes period first (other :: readings) := by
  intro index within
  cases index with
  | zero =>
      rw [Nat.zero_add] at within ⊢
      exact exceeded within
  | succ index =>
      rw [Nat.succ_add, List.getD_cons_succ, List.getD_cons_succ]
      rw [List.length_cons] at within
      exact overtakes index (by omega)

/-- So many periods take the readings as far, at least. -/
theorem le_getD (overtakes : Overtakes period first readings) (count : Nat)
    (within : count * period ≤ readings.length) :
    count ≤ (first :: readings).getD (count * period) 0 := by
  induction count with
  | zero => exact Nat.zero_le _
  | succ count inductionHypothesis =>
      rw [Nat.succ_mul] at within ⊢
      have before := inductionHypothesis (Nat.le_of_add_right_le within)
      exact Nat.lt_of_le_of_lt before (overtakes _ within)

/-- Readings that stay below a minimum are fewer than that many periods. -/
theorem length_lt (overtakes : Overtakes period first (short ++ readings))
    (below : ∀ reading ∈ short, reading < minimum) (periodPos : 0 < period)
    (minimumPos : 0 < minimum) : short.length < minimum * period := by
  refine Nat.lt_of_not_le fun enough => ?_
  have within : minimum * period ≤ (short ++ readings).length := by
    rw [List.length_append]
    exact Nat.le_add_right_of_le enough
  have reached := overtakes.le_getD minimum within
  have notZero : minimum * period ≠ 0 := Nat.ne_of_gt (Nat.mul_pos minimumPos periodPos)
  obtain ⟨index, isIndex⟩ := Nat.exists_eq_succ_of_ne_zero notZero
  have inside : index < short.length := by
    rw [isIndex] at enough
    exact enough
  rw [isIndex, List.getD_cons_succ, List.getD_append _ _ _ _ inside,
    List.getD_eq_getElem _ _ inside] at reached
  exact absurd (below _ (List.getElem_mem inside)) (Nat.not_lt.mpr reached)

/-- A loop whose readings get on ends within so many periods. -/
theorem length_le_of_reaches {last : Nat} (overtakes : Overtakes period first readings)
    (reaches : Trace.Reaches minimum readings last) (periodPos : 0 < period)
    (minimumPos : 0 < minimum) : readings.length ≤ minimum * period := by
  obtain ⟨short, rfl, below, _⟩ := reaches
  rw [List.length_append]
  exact overtakes.length_lt below periodPos minimumPos

theorem length_lt_of_below (overtakes : Overtakes period first readings)
    (below : ∀ reading ∈ readings, reading < minimum) (periodPos : 0 < period)
    (minimumPos : 0 < minimum) : readings.length < minimum * period := by
  rw [← List.append_nil readings] at overtakes
  exact overtakes.length_lt below periodPos minimumPos

end Overtakes

end Throughput
