import Mathlib.Algebra.BigOperators.Ring.List
import Mathlib.Algebra.Order.BigOperators.Group.List
import Mathlib.Order.Bounds.Basic
import Throughput.Proofs.Exact
import Throughput.Report

/-!
Contract: the figures of scores and reports in exact arithmetic.

Owns:
- the mean, the highest value and the deviation of a list as sums, greatest
  element and square root, and the critical values as positive numbers;
- `AllEqual`, and the mean that is as high as the highest value only then;
- `Summary.ofFigures`: a summary is made of four figures of its scores and
  depends on nothing else.

Does not own: how the figures compare with each other; that is stated apart for
the spread of one list and for the two averages of a report.
-/

namespace Throughput

/-! ### Sums compared term by term -/

/-- No two values of a list differ. -/
def AllEqual {α : Type} (values : List α) : Prop :=
  ∀ first ∈ values, ∀ second ∈ values, first = second

section Sums

variable {values : List ℝ} {center first second : ℝ} {lower upper : ℝ → ℝ}

theorem not_allEqual_of_ne (isFirst : first ∈ values) (isSecond : second ∈ values)
    (differ : first ≠ second) : ¬ AllEqual values :=
  fun same => differ (same first isFirst second isSecond)

theorem allEqual_iff_of_mem (member : center ∈ values) :
    AllEqual values ↔ ∀ value ∈ values, value = center :=
  ⟨fun same value isValue => same value isValue center member,
    fun same first isFirst second isSecond =>
      (same first isFirst).trans (same second isSecond).symm⟩

theorem sum_map_const (values : List ℝ) (center : ℝ) :
    (values.map fun _ => center).sum = values.length * center := by
  rw [List.map_const', List.sum_replicate, nsmul_eq_mul]

/-- Of two sums whose terms compare one by one, the lower one is as great as the
upper one only if every term is. -/
theorem sum_map_eq_iff_of_le (below : ∀ value ∈ values, lower value ≤ upper value) :
    (values.map lower).sum = (values.map upper).sum ↔
      ∀ value ∈ values, lower value = upper value := by
  constructor
  · intro same value member
    by_contra differ
    have less : lower value < upper value := lt_of_le_of_ne (below value member) differ
    exact (List.sum_lt_sum lower upper below ⟨value, member, less⟩).ne same
  · intro same
    rw [List.map_congr_left same]

end Sums

section Figures

variable [Elementary] {values : List ℝ}

/-! ### The mean -/

theorem mean_eq_div (values : List ℝ) : mean values = values.sum / values.length := by
  change Scalar.sum values / (values.length : ℝ) = _
  rw [Scalar.sum_eq_sum]

omit [Elementary] in
theorem cast_length_pos (nonempty : values ≠ []) : (0 : ℝ) < values.length :=
  Nat.cast_pos.mpr (List.length_pos_iff.mpr nonempty)

theorem length_mul_mean (nonempty : values ≠ []) : values.length * mean values = values.sum := by
  rw [mean_eq_div]
  exact mul_div_cancel₀ _ (cast_length_pos nonempty).ne'

theorem mean_pos (nonempty : values ≠ []) (positive : ∀ value ∈ values, 0 < value) :
    0 < mean values := by
  rw [mean_eq_div]
  exact div_pos (List.sum_pos values positive nonempty) (cast_length_pos nonempty)

/-- Values are all equal if they are all at their mean. -/
theorem allEqual_iff_mean (nonempty : values ≠ []) :
    AllEqual values ↔ ∀ value ∈ values, value = mean values := by
  constructor
  · intro same value member
    have copies : values = List.replicate values.length value :=
      List.eq_replicate_of_mem fun other isOther => same other isOther value member
    have sum : values.sum = values.length * value := by
      rw [congrArg List.sum copies, List.sum_replicate, nsmul_eq_mul]
    rw [mean_eq_div, sum]
    exact (mul_div_cancel_left₀ value (cast_length_pos nonempty).ne').symm
  · intro same first isFirst second isSecond
    exact (same first isFirst).trans (same second isSecond).symm

/-! ### The highest value -/

theorem foldl_larger_isGreatest (first : ℝ) (rest : List ℝ) :
    IsGreatest {value | value ∈ first :: rest} (rest.foldl Scalar.larger first) := by
  induction rest generalizing first with
  | nil =>
      exact ⟨List.mem_singleton_self first,
        fun _ member => (List.mem_singleton.mp member).le⟩
  | cons second rest inductionHypothesis =>
      -- The larger of the first two takes their place at the head.
      obtain ⟨member, bound⟩ := inductionHypothesis (max first second)
      rw [List.foldl_cons, Scalar.larger_eq_max]
      have highest := bound List.mem_cons_self
      constructor
      · rcases List.mem_cons.mp member with isHead | inRest
        · rw [isHead]
          rcases max_choice first second with isFirst | isSecond
          · rw [isFirst]
            exact List.mem_cons_self
          · rw [isSecond]
            exact List.mem_cons_of_mem _ List.mem_cons_self
        · exact List.mem_cons_of_mem _ (List.mem_cons_of_mem _ inRest)
      · intro value isValue
        rcases List.mem_cons.mp isValue with rfl | later
        · exact (le_max_left _ _).trans highest
        · rcases List.mem_cons.mp later with rfl | inRest
          · exact (le_max_right _ _).trans highest
          · exact bound (List.mem_cons_of_mem _ inRest)

/-- Every value is a number, so none is left out of the maximum. -/
theorem best_isGreatest (nonempty : values ≠ []) :
    IsGreatest {value | value ∈ values} (best values) := by
  obtain ⟨first, rest, rfl⟩ := List.exists_cons_of_ne_nil nonempty
  have all : (first :: rest).filter (fun value => !Scalar.isNaN value) = first :: rest :=
    List.filter_eq_self.mpr fun _ _ => rfl
  rw [best, all]
  exact foldl_larger_isGreatest first rest

theorem mean_le_best (nonempty : values ≠ []) : mean values ≤ best values := by
  have bound : values.sum ≤ values.length * best values := by
    rw [← sum_map_const]
    conv_lhs => rw [← List.map_id' values]
    exact List.sum_le_sum (best_isGreatest nonempty).2
  rw [mean_eq_div, div_le_iff₀' (cast_length_pos nonempty)]
  exact bound

theorem mean_eq_best_iff (nonempty : values ≠ []) :
    mean values = best values ↔ AllEqual values := by
  obtain ⟨member, bound⟩ := best_isGreatest nonempty
  rw [allEqual_iff_of_mem member, ← sum_map_eq_iff_of_le bound, List.map_id', sum_map_const,
    mean_eq_div, div_eq_iff (cast_length_pos nonempty).ne', mul_comm]

/-! ### The deviation and the critical value -/

theorem deviation_eq_sqrt (values : List ℝ) (center : ℝ) :
    deviation values center =
      √((values.map fun value => (value - center) ^ 2).sum / (values.length - 1 : ℕ)) := by
  have squares : values.map (squaredDistance center) =
      values.map fun value => (value - center) ^ 2 :=
    List.map_congr_left fun value _ => (pow_two (value - center)).symm
  change √(Scalar.sum (values.map (squaredDistance center)) / (values.length - 1 : ℕ)) = _
  rw [Scalar.sum_eq_sum, squares]

omit [Elementary] in
theorem exists_criticalHundredth {count : Nat} (several : 2 ≤ count) :
    ∃ hundredths, criticalHundredth count = some hundredths ∧ 0 < hundredths := by
  have table : ∀ hundredths ∈ criticalHundredths, 0 < hundredths := by decide
  unfold criticalHundredth
  split_ifs with beyond large past few
  · exact ⟨_, rfl, by decide⟩
  · exact ⟨_, rfl, by decide⟩
  · exact ⟨_, rfl, by decide⟩
  · exact absurd several few.not_ge
  · have within : count - 2 < criticalHundredths.length := by
      change count - 2 < 95
      omega
    exact ⟨_, List.getElem?_eq_getElem within, table _ (List.getElem_mem within)⟩

theorem studentCritical_pos {count : Nat} (several : 2 ≤ count) :
    (0 : ℝ) < studentCritical count := by
  obtain ⟨hundredths, isCritical, positive⟩ := exists_criticalHundredth several
  rw [studentCritical, isCritical]
  change (0 : ℝ) < OfScientific.ofScientific hundredths true 2
  rw [Scalar.ofScientific_hundredths]
  have : (0 : ℝ) < hundredths := Nat.cast_pos.mpr positive
  positivity

end Figures

/-! ### Summaries and reports -/

section Summaries

variable {α : Type} [Scalar α]

/-- The summary of so many scores with this highest value, mean and deviation. -/
def Summary.ofFigures (count : Nat) (highest center spread : α) : Except Failure (Summary α) :=
  match count with
  | 0 => .error .emptySampleSet
  | 1 =>
    .ok {
      count, best := highest, mean := center
      standardDeviation := none, standardError := none
      critical := none, confidencePercent := none }
  | _ + 2 =>
    let standardError := spread / Scalar.sqrt (Scalar.ofNat count)
    .ok {
      count, best := highest, mean := center
      standardDeviation := some spread
      standardError := some standardError
      critical := some (studentCritical count)
      confidencePercent := some (studentCritical count * standardError / center * 100.0) }

/-- Four figures of the scores decide their summary. -/
theorem Summary.ofScores_eq (scores : List α) :
    Summary.ofScores scores =
      Summary.ofFigures scores.length (Throughput.best scores) (Throughput.mean scores)
        (deviation scores (Throughput.mean scores)) := by
  match scores with
  | [] => rfl
  | [_] => rfl
  | _ :: _ :: _ => rfl

theorem Summary.exists_ofFigures {count : Nat} (positive : 0 < count) (highest center spread : α) :
    ∃ summary, Summary.ofFigures count highest center spread = .ok summary ∧
      summary.best = highest ∧ summary.mean = center := by
  match count, positive with
  | 1, _ => exact ⟨_, rfl, rfl, rfl⟩
  | _ + 2, _ => exact ⟨_, rfl, rfl, rfl⟩

theorem Summary.exists_ofScores {scores : List α} (nonempty : scores ≠ []) :
    ∃ summary, Summary.ofScores scores = .ok summary ∧
      summary.best = Throughput.best scores ∧ summary.mean = Throughput.mean scores := by
  rw [Summary.ofScores_eq]
  exact Summary.exists_ofFigures (List.length_pos_iff.mpr nonempty) _ _ _

theorem Summary.ofFigures_several {count : Nat} (several : 2 ≤ count) (highest center spread : α) :
    Summary.ofFigures count highest center spread =
      .ok {
        count, best := highest, mean := center
        standardDeviation := some spread
        standardError := some (spread / Scalar.sqrt (Scalar.ofNat count))
        critical := some (studentCritical count)
        confidencePercent := some
          (studentCritical count * (spread / Scalar.sqrt (Scalar.ofNat count)) / center *
            100.0) } := by
  match count, several with
  | _ + 2, _ => rfl

theorem Report.ofSamples_eq {name : String} {samples : List α} {summary : Summary α}
    (summarized : Summary.ofScores (samples.map score) = .ok summary) :
    Report.ofSamples name samples =
      .ok ⟨name, samples, samples.map score, mean samples, summary⟩ := by
  rw [Report.ofSamples, summarized]
  rfl

end Summaries

end Throughput
