import Throughput.Proofs.Statistics.Figures

/-!
Contract: the spread of scores and their confidence interval in exact
arithmetic.

Owns:
- the sum of the squared distances from the mean: what it is, when it is zero,
  and how large it can be for positive scores;
- the standard error, which is always less than the mean;
- the theorem about the summary of two or more positive scores.

That the standard error stays below the mean is not visible in its definition.
It rests on the square of a sum: of several positive scores, each is less than
their sum, so their squares sum to less than the square of it.
-/

namespace Throughput

section Squares

variable {scores : List ℝ} {score : ℝ}

theorem ne_nil_of_several (several : 2 ≤ scores.length) : scores ≠ [] :=
  List.length_pos_iff.mp (Nat.lt_of_lt_of_le Nat.zero_lt_two several)

theorem cast_pred_length_pos (several : 2 ≤ scores.length) :
    (0 : ℝ) < (scores.length - 1 : ℕ) := by
  rw [Nat.cast_pos]
  omega

/-- One of several positive scores is less than all of them together. -/
theorem lt_sum_of_mem (several : 2 ≤ scores.length) (positive : ∀ score ∈ scores, 0 < score)
    (member : score ∈ scores) : score < scores.sum := by
  obtain ⟨before, after, rfl⟩ := List.append_of_mem member
  have others : before ++ after ≠ [] := by
    intro none
    have noLength := congrArg List.length none
    simp only [List.length_append, List.length_cons, List.length_nil] at several noLength
    omega
  have othersPositive : 0 < (before ++ after).sum := by
    refine List.sum_pos _ (fun other isOther => positive other ?_) others
    rcases List.mem_append.mp isOther with isBefore | isAfter
    · exact List.mem_append_left _ isBefore
    · exact List.mem_append_right _ (List.mem_cons_of_mem _ isAfter)
  rw [List.perm_middle.sum_eq, List.sum_cons]
  exact lt_add_of_pos_right score othersPositive

theorem sum_sq_lt_sq_sum (several : 2 ≤ scores.length)
    (positive : ∀ score ∈ scores, 0 < score) :
    (scores.map fun score => score ^ 2).sum < scores.sum ^ 2 :=
  calc
    (scores.map fun score => score ^ 2).sum < (scores.map fun score => score * scores.sum).sum := by
      refine List.sum_lt_sum_of_ne_nil (ne_nil_of_several several) _ _ fun score member => ?_
      rw [pow_two]
      exact mul_lt_mul_of_pos_left (lt_sum_of_mem several positive member) (positive score member)
    _ = scores.sum ^ 2 := by
      rw [List.sum_map_mul_right, List.map_id', pow_two]

theorem sum_sq_distance (scores : List ℝ) (center : ℝ) :
    (scores.map fun score => (score - center) ^ 2).sum + 2 * center * scores.sum =
      (scores.map fun score => score ^ 2).sum + scores.length * center ^ 2 := by
  induction scores with
  | nil => simp
  | cons first rest inductionHypothesis =>
      simp only [List.map_cons, List.sum_cons, List.length_cons, Nat.cast_succ]
      linarith

end Squares

section Spread

variable [Elementary] {scores : List ℝ}

/-- The sum of the squared distances of scores from their mean. -/
noncomputable def squaredSpread (scores : List ℝ) : ℝ :=
  (scores.map fun score => (score - mean scores) ^ 2).sum

theorem squaredSpread_nonneg (scores : List ℝ) : 0 ≤ squaredSpread scores := by
  refine List.sum_nonneg fun square member => ?_
  obtain ⟨score, -, rfl⟩ := List.mem_map.mp member
  exact sq_nonneg (score - mean scores)

theorem squaredSpread_eq (nonempty : scores ≠ []) :
    squaredSpread scores =
      (scores.map fun score => score ^ 2).sum - scores.length * mean scores ^ 2 := by
  have expanded := sum_sq_distance scores (mean scores)
  rw [← length_mul_mean nonempty] at expanded
  rw [squaredSpread]
  linarith

/-- The scores have no spread if no two of them differ. -/
theorem squaredSpread_eq_zero_iff (nonempty : scores ≠ []) :
    squaredSpread scores = 0 ↔ AllEqual scores := by
  have atMean : ∀ score : ℝ, 0 = (score - mean scores) ^ 2 ↔ score = mean scores := by
    intro score
    rw [eq_comm, sq_eq_zero_iff, sub_eq_zero]
  have compared := sum_map_eq_iff_of_le fun score (_ : score ∈ scores) =>
    sq_nonneg (score - mean scores)
  rw [sum_map_const, mul_zero] at compared
  rw [allEqual_iff_mean nonempty, squaredSpread, eq_comm, compared]
  simp only [atMean]

theorem squaredSpread_lt (several : 2 ≤ scores.length) (positive : ∀ score ∈ scores, 0 < score) :
    squaredSpread scores < mean scores ^ 2 * (scores.length * (scores.length - 1 : ℕ)) := by
  have nonempty := ne_nil_of_several several
  have squares := sum_sq_lt_sq_sum several positive
  have pred : ((scores.length - 1 : ℕ) : ℝ) = scores.length - 1 :=
    Nat.cast_pred (List.length_pos_iff.mpr nonempty)
  rw [← length_mul_mean nonempty] at squares
  rw [squaredSpread_eq nonempty, pred]
  linarith

theorem deviation_mean (scores : List ℝ) :
    deviation scores (mean scores) = √(squaredSpread scores / (scores.length - 1 : ℕ)) :=
  deviation_eq_sqrt scores (mean scores)

theorem deviation_eq_zero_iff (several : 2 ≤ scores.length) :
    deviation scores (mean scores) = 0 ↔ AllEqual scores := by
  have freedom := cast_pred_length_pos several
  rw [deviation_mean, Real.sqrt_eq_zero (div_nonneg (squaredSpread_nonneg scores) freedom.le),
    div_eq_zero_iff, or_iff_left freedom.ne', squaredSpread_eq_zero_iff (ne_nil_of_several several)]

/-! ### The standard error -/

/-- The standard error of the mean of scores. -/
noncomputable def errorOfMean (scores : List ℝ) : ℝ :=
  deviation scores (mean scores) / √scores.length

theorem errorOfMean_nonneg (scores : List ℝ) : 0 ≤ errorOfMean scores := by
  rw [errorOfMean, deviation_mean]
  positivity

theorem errorOfMean_eq_zero_iff (several : 2 ≤ scores.length) :
    errorOfMean scores = 0 ↔ AllEqual scores := by
  have root := Real.sqrt_pos.mpr (cast_length_pos (ne_nil_of_several several))
  rw [errorOfMean, div_eq_zero_iff, or_iff_left root.ne', deviation_eq_zero_iff several]

theorem errorOfMean_lt_mean (several : 2 ≤ scores.length)
    (positive : ∀ score ∈ scores, 0 < score) : errorOfMean scores < mean scores := by
  have nonempty := ne_nil_of_several several
  have freedom := cast_pred_length_pos several
  have bound := squaredSpread_lt several positive
  rw [errorOfMean, deviation_mean,
    ← Real.sqrt_div' _ (cast_length_pos nonempty).le, Real.sqrt_lt' (mean_pos nonempty positive),
    div_div, mul_comm, div_lt_iff₀ (mul_pos (cast_length_pos nonempty) freedom)]
  exact bound

/-! ### The interval -/

/-- Half the width of the confidence interval of scores, in percent of their
mean. -/
noncomputable def halfWidth (scores : List ℝ) : ℝ :=
  studentCritical scores.length * errorOfMean scores / mean scores * 100.0

theorem halfWidth_nonneg (several : 2 ≤ scores.length) (positive : ∀ score ∈ scores, 0 < score) :
    0 ≤ halfWidth scores := by
  have critical := studentCritical_pos several
  have center := mean_pos (ne_nil_of_several several) positive
  have error := errorOfMean_nonneg scores
  rw [halfWidth]
  positivity

theorem halfWidth_lt (several : 2 ≤ scores.length) (positive : ∀ score ∈ scores, 0 < score) :
    halfWidth scores < 100 * studentCritical scores.length := by
  have center := mean_pos (ne_nil_of_several several) positive
  have less : studentCritical scores.length * errorOfMean scores / mean scores <
      studentCritical scores.length := by
    rw [div_lt_iff₀ center]
    exact mul_lt_mul_of_pos_left (errorOfMean_lt_mean several positive)
      (studentCritical_pos several)
  rw [halfWidth]
  linarith

theorem halfWidth_eq_zero_iff (several : 2 ≤ scores.length)
    (positive : ∀ score ∈ scores, 0 < score) : halfWidth scores = 0 ↔ AllEqual scores := by
  have critical : studentCritical scores.length ≠ (0 : ℝ) := (studentCritical_pos several).ne'
  have center := (mean_pos (ne_nil_of_several several) positive).ne'
  have hundred : (100.0 : ℝ) ≠ 0 := by norm_num
  rw [halfWidth, mul_eq_zero, or_iff_left hundred, div_eq_zero_iff, or_iff_left center,
    mul_eq_zero, or_iff_right critical, errorOfMean_eq_zero_iff several]

theorem Summary.ofScores_several (several : 2 ≤ scores.length) :
    Summary.ofScores scores = .ok {
      count := scores.length
      best := Throughput.best scores
      mean := Throughput.mean scores
      standardDeviation := some (deviation scores (Throughput.mean scores))
      standardError := some (errorOfMean scores)
      critical := some (studentCritical scores.length)
      confidencePercent := some (halfWidth scores) } := by
  rw [Summary.ofScores_eq, Summary.ofFigures_several several]
  rfl

end Spread

/-- Two or more positive scores have all four figures of their spread. The
standard error is less than the mean, and so the interval is narrower than the
critical value times the mean; it has no width, and the mean is the best score,
just when no two scores differ. -/
theorem Summary.interval_bounded
    [Elementary]
    (scores : List ℝ)
    (several : 2 ≤ scores.length)
    (positive : ∀ score ∈ scores, 0 < score) :
    ∃ summary spread error percent,
      Summary.ofScores scores = .ok summary ∧
      summary.standardDeviation = some spread ∧
      summary.standardError = some error ∧
      summary.critical = some (studentCritical scores.length) ∧
      summary.confidencePercent = some percent ∧
      (0 ≤ error ∧ error < summary.mean ∧ summary.mean ≤ summary.best) ∧
      (0 ≤ percent ∧ percent < 100 * studentCritical scores.length) ∧
      (spread = 0 ↔ AllEqual scores) ∧
      (error = 0 ↔ AllEqual scores) ∧
      (percent = 0 ↔ AllEqual scores) ∧
      (summary.mean = summary.best ↔ AllEqual scores) := by
  have nonempty := ne_nil_of_several several
  refine ⟨_, _, _, _, Summary.ofScores_several several, rfl, rfl, rfl, rfl, ?_, ?_, ?_⟩
  · exact ⟨errorOfMean_nonneg scores, errorOfMean_lt_mean several positive, mean_le_best nonempty⟩
  · exact ⟨halfWidth_nonneg several positive, halfWidth_lt several positive⟩
  · exact ⟨deviation_eq_zero_iff several, errorOfMean_eq_zero_iff several,
      halfWidth_eq_zero_iff several positive, mean_eq_best_iff nonempty⟩

/-- One call a second and three calls a second. -/
theorem Summary.two_scores_apart :
    letI := Elementary.analysis
    2 ≤ ([1, 3] : List ℝ).length ∧ (∀ score ∈ ([1, 3] : List ℝ), 0 < score) ∧
      ∃ summary error, Summary.ofScores ([1, 3] : List ℝ) = .ok summary ∧
        summary.standardError = some error ∧ 0 < error ∧ error < summary.mean := by
  let _ := Elementary.analysis
  have several : 2 ≤ ([1, 3] : List ℝ).length := by decide
  have positive : ∀ score ∈ ([1, 3] : List ℝ), 0 < score := by simp
  have differ : (1 : ℝ) ≠ 3 := by norm_num
  have apart : ¬ AllEqual ([1, 3] : List ℝ) := not_allEqual_of_ne (by simp) (by simp) differ
  obtain ⟨summary, _, error, _, isSummary, _, isError, _, _, ⟨nonneg, less, _⟩, _, _, zero, _⟩ :=
    Summary.interval_bounded [1, 3] several positive
  have notZero : error ≠ 0 := fun isZero => apart (zero.mp isZero)
  exact ⟨several, positive, summary, error, isSummary, isError, lt_of_le_of_ne nonneg notZero.symm,
    less⟩

end Throughput
