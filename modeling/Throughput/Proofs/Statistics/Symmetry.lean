import Throughput.Proofs.Statistics.Averages

/-!
Contract: what the figures of a report do not depend on, in exact arithmetic.

Owns:
- `arranged`, values in the order of a list of places;
- the summary of scores in another order, which is the same summary;
- `Summary.dividedBy` and the summary of scores that are all divided by one
  factor;
- the theorem about a report whose samples are taken in another order or
  measured in another unit.

Mean and deviation are sums, and the best score is the greatest element, so
none of them sees an order. A factor passes through each of them, and leaves
the interval alone because that is a quotient of two of them.
-/

namespace Throughput

/-! ### Another order -/

section Order

variable {α β : Type} {order : List Nat} {values : List α}

/-- The values at the places of a list, in the order of that list. -/
def arranged (order : List Nat) (values : List α) : List α :=
  order.filterMap fun place => values[place]?

theorem arranged_range (values : List α) : arranged (List.range values.length) values = values := by
  induction values with
  | nil => rfl
  | cons first rest inductionHypothesis =>
      rw [arranged, List.length_cons, List.range_succ_eq_map, List.filterMap_cons,
        List.filterMap_map]
      exact congrArg (first :: ·) inductionHypothesis

/-- An order that has every place once leaves no value out and adds none. -/
theorem arranged_perm (whole : order.Perm (List.range values.length)) :
    (arranged order values).Perm values := by
  have everyPlace : (arranged order values).Perm (arranged (List.range values.length) values) :=
    whole.filterMap _
  rwa [arranged_range] at everyPlace

theorem arranged_map (order : List Nat) (change : α → β) (values : List α) :
    arranged order (values.map change) = (arranged order values).map change := by
  simp only [arranged, List.getElem?_map, List.map_filterMap]

end Order

section Permutation

variable [Elementary] {first second : List ℝ}

theorem mean_eq_of_perm (perm : first.Perm second) : mean first = mean second := by
  rw [mean_eq_div, mean_eq_div, perm.sum_eq, perm.length_eq]

theorem deviation_eq_of_perm (perm : first.Perm second) (center : ℝ) :
    deviation first center = deviation second center := by
  rw [deviation_eq_sqrt, deviation_eq_sqrt, (perm.map _).sum_eq, perm.length_eq]

theorem best_eq_of_perm (perm : first.Perm second) : best first = best second := by
  by_cases empty : first = []
  · subst empty
    rw [perm.nil_eq]
  · have someSecond : second ≠ [] := fun none => empty (List.perm_nil.mp (none ▸ perm))
    have sameValues : {value | value ∈ first} = {value | value ∈ second} :=
      Set.ext fun _ => perm.mem_iff
    have greatest := best_isGreatest empty
    rw [sameValues] at greatest
    exact greatest.unique (best_isGreatest someSecond)

theorem Summary.ofScores_eq_of_perm (perm : first.Perm second) :
    Summary.ofScores first = Summary.ofScores second := by
  rw [Summary.ofScores_eq, Summary.ofScores_eq, mean_eq_of_perm perm, best_eq_of_perm perm,
    deviation_eq_of_perm perm, perm.length_eq]

end Permutation

/-! ### Another unit -/

section Unit

variable [Elementary] {values : List ℝ} {factor : ℝ}

theorem mean_map_mul (factor : ℝ) (values : List ℝ) :
    mean (values.map (factor * ·)) = factor * mean values := by
  rw [mean_eq_div, mean_eq_div, List.sum_map_mul_left, List.map_id', List.length_map,
    mul_div_assoc]

omit [Elementary] in
theorem map_div_eq (factor : ℝ) (values : List ℝ) :
    values.map (· / factor) = values.map (factor⁻¹ * ·) :=
  List.map_congr_left fun value _ => div_eq_inv_mul value factor

theorem mean_map_div (factor : ℝ) (values : List ℝ) :
    mean (values.map (· / factor)) = mean values / factor := by
  rw [map_div_eq, mean_map_mul, div_eq_inv_mul]

theorem best_map_div (positive : 0 < factor) (nonempty : values ≠ []) :
    best (values.map (· / factor)) = best values / factor := by
  have order : Monotone fun value : ℝ => value / factor :=
    fun _ _ le => div_le_div_of_nonneg_right le positive.le
  have image : {value | value ∈ values.map (· / factor)} =
      (fun value : ℝ => value / factor) '' {value | value ∈ values} :=
    Set.ext fun _ => List.mem_map
  have greatest := best_isGreatest (mt List.map_eq_nil_iff.mp nonempty : values.map (· / factor) ≠ [])
  rw [image] at greatest
  exact greatest.unique (order.map_isGreatest (best_isGreatest nonempty))

theorem deviation_map_div (positive : 0 < factor) (values : List ℝ) (center : ℝ) :
    deviation (values.map (· / factor)) (center / factor) = deviation values center / factor := by
  have squares : (values.map (· / factor)).map (fun value => (value - center / factor) ^ 2) =
      values.map fun value => (factor ^ 2)⁻¹ * (value - center) ^ 2 := by
    rw [List.map_map]
    refine List.map_congr_left fun value _ => ?_
    change (value / factor - center / factor) ^ 2 = _
    rw [← sub_div, div_pow, div_eq_inv_mul]
  rw [deviation_eq_sqrt, deviation_eq_sqrt, squares, List.sum_map_mul_left, List.length_map,
    mul_div_assoc, ← div_eq_inv_mul, Real.sqrt_div' _ (sq_nonneg factor),
    Real.sqrt_sq positive.le]

/-- The summary with all figures divided by a factor that have the unit of a
score. The count, the critical value and the percentage have none. -/
noncomputable def Summary.dividedBy (factor : ℝ) (summary : Summary ℝ) : Summary ℝ :=
  { summary with
    best := summary.best / factor
    mean := summary.mean / factor
    standardDeviation := summary.standardDeviation.map (· / factor)
    standardError := summary.standardError.map (· / factor) }

theorem Summary.ofFigures_div (positive : 0 < factor) (count : Nat)
    (highest center spread : ℝ) :
    Summary.ofFigures count (highest / factor) (center / factor) (spread / factor) =
      (Summary.ofFigures count highest center spread).map (Summary.dividedBy factor) := by
  match count with
  | 0 => rfl
  | 1 => rfl
  | count + 2 =>
      have error (root : ℝ) : spread / factor / root = spread / root / factor :=
        div_right_comm spread factor root
      have percent (critical root : ℝ) :
          critical * (spread / factor / root) / (center / factor) * 100.0 =
            critical * (spread / root) / center * 100.0 := by
        rw [error, ← mul_div_assoc, div_div_div_cancel_right₀ positive.ne']
      -- One field after the other; the factor cancels in the percentage only.
      refine congrArg Except.ok (Summary.mk.injEq .. ▸ ?_)
      exact ⟨rfl, rfl, rfl, rfl, congrArg some (error _), rfl, congrArg some (percent _ _)⟩

theorem Summary.ofScores_map_div (positive : 0 < factor) {scores : List ℝ} (nonempty : scores ≠ []) :
    Summary.ofScores (scores.map (· / factor)) =
      (Summary.ofScores scores).map (Summary.dividedBy factor) := by
  rw [Summary.ofScores_eq, Summary.ofScores_eq, mean_map_div, best_map_div positive nonempty,
    deviation_map_div positive, List.length_map, Summary.ofFigures_div positive]

theorem score_mul (factor sample : ℝ) : score (factor * sample) = score sample / factor := by
  rw [score_eq, score_eq, div_div, mul_comm]

end Unit

/-- The figures of a report are those of its samples alone: they depend neither
on the order in which the samples were taken nor on the unit of time. In
another order the scores come in that order too, and all figures are the same.
In another unit the mean of the samples is multiplied by what the samples are
multiplied by, and every figure of the summary that is a score is divided by
it. -/
theorem Report.figures_free_of_order_and_unit
    [Elementary]
    (name : String)
    (samples : List ℝ)
    (nonempty : samples ≠ []) :
    ∃ report, Report.ofSamples name samples = .ok report ∧
      (∀ order : List Nat, order.Perm (List.range samples.length) →
        ∃ rearranged, Report.ofSamples name (arranged order samples) = .ok rearranged ∧
          rearranged.meanMicros = report.meanMicros ∧
          rearranged.summary = report.summary ∧
          rearranged.scores = arranged order report.scores) ∧
      ∀ factor : ℝ, 0 < factor →
        ∃ rescaled, Report.ofSamples name (samples.map (factor * ·)) = .ok rescaled ∧
          rescaled.meanMicros = factor * report.meanMicros ∧
          rescaled.scores = report.scores.map (· / factor) ∧
          rescaled.summary = report.summary.dividedBy factor := by
  have someScore : samples.map score ≠ [] := mt List.map_eq_nil_iff.mp nonempty
  obtain ⟨summary, isSummary, -, -⟩ := Summary.exists_ofScores someScore
  refine ⟨_, Report.ofSamples_eq isSummary, fun order whole => ?_, fun factor positive => ?_⟩
  · have perm := arranged_perm whole
    have sameSummary : Summary.ofScores ((arranged order samples).map score) = .ok summary := by
      rw [Summary.ofScores_eq_of_perm (perm.map score), isSummary]
    exact ⟨_, Report.ofSamples_eq sameSummary, mean_eq_of_perm perm, rfl,
      (arranged_map order score samples).symm⟩
  · have scores : (samples.map (factor * ·)).map score = (samples.map score).map (· / factor) := by
      rw [List.map_map, List.map_map]
      exact List.map_congr_left fun sample _ => score_mul factor sample
    have divided : Summary.ofScores ((samples.map (factor * ·)).map score) =
        .ok (summary.dividedBy factor) := by
      rw [scores, Summary.ofScores_map_div positive someScore, isSummary]
      rfl
    exact ⟨_, Report.ofSamples_eq divided, mean_map_mul factor samples, scores, rfl⟩

/-- Three samples with the last one taken first, and with nanoseconds for
microseconds. -/
theorem Report.three_samples_rearranged_and_rescaled :
    letI := Elementary.analysis
    ([1, 2, 4] : List ℝ) ≠ [] ∧ [2, 0, 1].Perm (List.range ([1, 2, 4] : List ℝ).length) ∧
      (0 : ℝ) < 1000 ∧
      ∃ report rearranged rescaled,
        Report.ofSamples "three" ([1, 2, 4] : List ℝ) = .ok report ∧
        Report.ofSamples "three" ([4, 1, 2] : List ℝ) = .ok rearranged ∧
        Report.ofSamples "three" ([1000, 2000, 4000] : List ℝ) = .ok rescaled ∧
        rearranged.summary = report.summary ∧
        rescaled.summary.confidencePercent = report.summary.confidencePercent := by
  let _ := Elementary.analysis
  have nonempty : ([1, 2, 4] : List ℝ) ≠ [] := List.cons_ne_nil _ _
  have whole : [2, 0, 1].Perm (List.range ([1, 2, 4] : List ℝ).length) := by decide
  have positive : (0 : ℝ) < 1000 := by norm_num
  have nanoseconds : ([1, 2, 4] : List ℝ).map (1000 * ·) = [1000, 2000, 4000] := by norm_num
  obtain ⟨report, isReport, inOrder, inUnit⟩ :=
    Report.figures_free_of_order_and_unit "three" [1, 2, 4] nonempty
  obtain ⟨rearranged, isRearranged, -, sameSummary, -⟩ := inOrder [2, 0, 1] whole
  obtain ⟨rescaled, isRescaled, -, -, divided⟩ := inUnit 1000 positive
  rw [nanoseconds] at isRescaled
  refine ⟨nonempty, whole, positive, report, rearranged, rescaled, isReport, isRearranged,
    isRescaled, sameSummary, ?_⟩
  rw [divided]
  rfl

end Throughput
