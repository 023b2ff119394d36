import Throughput.Proofs.Statistics.Figures

/-!
Contract: the two averages of a report in exact arithmetic.

Owns:
- the tangent to the score of a sample, below which no score lies;
- the score of the mean sample, which is at most the mean score, and the case
  in which the two are the same;
- the best score as the score of the smallest sample;
- the theorem that orders the figures of a report line.

A report averages its samples and, apart from them, their scores. A score is a
reciprocal and so bends away from its tangents. The tangents at the mean sample
sum to the score of the mean, once for every sample; what the scores have above
them is what the mean score has above the score of the mean.
-/

namespace Throughput

section Averages

variable [Elementary] {samples : List ℝ} {sample center : ℝ}

theorem score_eq (sample : ℝ) : score sample = 1000000 / sample := by
  change (1000000.0 : ℝ) / sample = _
  norm_num

theorem score_pos (positive : 0 < sample) : 0 < score sample := by
  rw [score_eq]
  positivity

/-! ### The tangent to a score -/

/-- The tangent at a center to the score as a function of the sample. -/
noncomputable def tangentScore (center sample : ℝ) : ℝ :=
  score center - score center * (sample / center - 1)

theorem score_sub_tangentScore (centered : 0 < center) (positive : 0 < sample) :
    score sample - tangentScore center sample = score sample * (sample / center - 1) ^ 2 := by
  rw [tangentScore, score_eq, score_eq]
  field_simp
  ring

theorem tangentScore_le (centered : 0 < center) (positive : 0 < sample) :
    tangentScore center sample ≤ score sample := by
  have above : 0 ≤ score sample * (sample / center - 1) ^ 2 :=
    mul_nonneg (score_pos positive).le (sq_nonneg _)
  rw [← score_sub_tangentScore centered positive] at above
  exact sub_nonneg.mp above

/-- The tangent touches the score at the center only. -/
theorem tangentScore_eq_iff (centered : 0 < center) (positive : 0 < sample) :
    tangentScore center sample = score sample ↔ sample = center := by
  rw [eq_comm, ← sub_eq_zero, score_sub_tangentScore centered positive, mul_eq_zero,
    or_iff_right (score_pos positive).ne', sq_eq_zero_iff, sub_eq_zero,
    div_eq_one_iff_eq centered.ne']

theorem sum_tangentScore_mean (nonempty : samples ≠ [])
    (positive : ∀ sample ∈ samples, 0 < sample) :
    (samples.map (tangentScore (mean samples))).sum = samples.length * score (mean samples) := by
  have center := (mean_pos nonempty positive).ne'
  have line : ∀ sample, tangentScore (mean samples) sample =
      2 * score (mean samples) + -(score (mean samples) / mean samples) * sample := by
    intro sample
    rw [tangentScore]
    ring
  have total : score (mean samples) / mean samples * samples.sum =
      samples.length * score (mean samples) := by
    rw [← length_mul_mean nonempty]
    field_simp
  rw [List.map_congr_left fun sample _ => line sample, List.sum_map_add, sum_map_const,
    List.sum_map_mul_left, List.map_id', neg_mul, total]
  ring

/-! ### The score of the mean and the mean of the scores -/

theorem length_mul_mean_scores (nonempty : samples ≠ []) :
    samples.length * mean (samples.map score) = (samples.map score).sum := by
  have someScore : samples.map score ≠ [] := mt List.map_eq_nil_iff.mp nonempty
  rw [← length_mul_mean someScore, List.length_map]

theorem score_mean_le (nonempty : samples ≠ []) (positive : ∀ sample ∈ samples, 0 < sample) :
    score (mean samples) ≤ mean (samples.map score) := by
  have below : (samples.map (tangentScore (mean samples))).sum ≤ (samples.map score).sum :=
    List.sum_le_sum fun sample member =>
      tangentScore_le (mean_pos nonempty positive) (positive sample member)
  rw [sum_tangentScore_mean nonempty positive, ← length_mul_mean_scores nonempty] at below
  exact le_of_mul_le_mul_left below (cast_length_pos nonempty)

theorem score_mean_eq_iff (nonempty : samples ≠ []) (positive : ∀ sample ∈ samples, 0 < sample) :
    score (mean samples) = mean (samples.map score) ↔ AllEqual samples := by
  have centered := mean_pos nonempty positive
  have compared := sum_map_eq_iff_of_le fun sample member =>
    tangentScore_le centered (positive sample member)
  rw [sum_tangentScore_mean nonempty positive, ← length_mul_mean_scores nonempty,
    mul_right_inj' (cast_length_pos nonempty).ne'] at compared
  rw [compared, allEqual_iff_mean nonempty]
  exact forall₂_congr fun sample member => tangentScore_eq_iff centered (positive sample member)

/-! ### The best score -/

/-- The shortest sample has the best score. -/
theorem exists_least_of_best (nonempty : samples ≠ [])
    (positive : ∀ sample ∈ samples, 0 < sample) :
    ∃ least ∈ samples, (∀ sample ∈ samples, least ≤ sample) ∧
      best (samples.map score) = score least := by
  obtain ⟨member, bound⟩ := best_isGreatest (mt List.map_eq_nil_iff.mp nonempty)
  obtain ⟨least, isSample, isBest⟩ := List.mem_map.mp member
  refine ⟨least, isSample, fun sample other => ?_, isBest.symm⟩
  have notBetter : score sample ≤ score least := by
    rw [isBest]
    exact bound (List.mem_map_of_mem other)
  rw [score_eq, score_eq] at notBetter
  exact (div_le_div_iff_of_pos_left (by norm_num) (positive sample other)
    (positive least isSample)).mp notBetter

end Averages

/-- The figures of a report line agree with each other. The best score is that
of the smallest sample; the score of the mean sample is at most the mean score,
which is at most the best; and the score of the mean sample is the mean score
just when all samples are equal. -/
theorem Report.averages_ordered
    [Elementary]
    (name : String)
    (samples : List ℝ)
    (nonempty : samples ≠ [])
    (positive : ∀ sample ∈ samples, 0 < sample) :
    ∃ report, Report.ofSamples name samples = .ok report ∧
      (∃ least ∈ samples, (∀ sample ∈ samples, least ≤ sample) ∧
        report.summary.best = 1000000 / least) ∧
      1000000 / report.meanMicros ≤ report.summary.mean ∧
      report.summary.mean ≤ report.summary.best ∧
      (1000000 / report.meanMicros = report.summary.mean ↔ AllEqual samples) := by
  have someScore : samples.map score ≠ [] := mt List.map_eq_nil_iff.mp nonempty
  obtain ⟨summary, isSummary, isBest, isMean⟩ := Summary.exists_ofScores someScore
  obtain ⟨least, isSample, isLeast, bestScore⟩ := exists_least_of_best nonempty positive
  refine ⟨_, Report.ofSamples_eq isSummary, ⟨least, isSample, isLeast, ?_⟩, ?_⟩
  · rw [isBest, bestScore, score_eq]
  · dsimp only
    rw [← score_eq, isMean, isBest]
    exact ⟨score_mean_le nonempty positive, mean_le_best someScore,
      score_mean_eq_iff nonempty positive⟩

/-- Samples of one and of two microseconds. -/
theorem Report.two_samples_apart :
    letI := Elementary.analysis
    ([1, 2] : List ℝ) ≠ [] ∧ (∀ sample ∈ ([1, 2] : List ℝ), 0 < sample) ∧
      ∃ report, Report.ofSamples "pair" ([1, 2] : List ℝ) = .ok report ∧
        1000000 / report.meanMicros < report.summary.mean := by
  let _ := Elementary.analysis
  have nonempty : ([1, 2] : List ℝ) ≠ [] := List.cons_ne_nil 1 [2]
  have positive : ∀ sample ∈ ([1, 2] : List ℝ), 0 < sample := by simp
  have differ : (1 : ℝ) ≠ 2 := by norm_num
  have apart : ¬ AllEqual ([1, 2] : List ℝ) := not_allEqual_of_ne (by simp) (by simp) differ
  obtain ⟨report, isReport, _, below, _, same⟩ :=
    Report.averages_ordered "pair" [1, 2] nonempty positive
  exact ⟨nonempty, positive, report, isReport,
    lt_of_le_of_ne below fun equal => apart (same.mp equal)⟩

end Throughput
