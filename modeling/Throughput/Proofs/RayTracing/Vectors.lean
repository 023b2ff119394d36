import Throughput.Proofs.Exact
import Throughput.RayTracing.Scene

/-!
Contract: vectors and rays in exact arithmetic.

Owns:
- the coordinates of sums, differences and multiples, and the product of two
  vectors, as expressions in real numbers;
- the length of a vector, and the unit vector that `normalize` makes of one
  that is not zero;
- the points of a ray as points of a line.

Does not own: anything about spheres.
-/

namespace Throughput.RayTracing

variable [Elementary]

namespace Vector3

omit [Elementary] in
@[ext]
theorem ext {left right : Vector3 ℝ} (x : left.x = right.x) (y : left.y = right.y)
    (z : left.z = right.z) : left = right := by
  cases left
  cases right
  exact congr (congr (congrArg mk x) y) z

variable (left right : Vector3 ℝ) (factor : ℝ)

@[simp]
theorem add_x : (left + right).x = left.x + right.x := rfl

@[simp]
theorem add_y : (left + right).y = left.y + right.y := rfl

@[simp]
theorem add_z : (left + right).z = left.z + right.z := rfl

@[simp]
theorem sub_x : (left - right).x = left.x - right.x := rfl

@[simp]
theorem sub_y : (left - right).y = left.y - right.y := rfl

@[simp]
theorem sub_z : (left - right).z = left.z - right.z := rfl

@[simp]
theorem mul_x : (left * factor).x = left.x * factor := rfl

@[simp]
theorem mul_y : (left * factor).y = left.y * factor := rfl

@[simp]
theorem mul_z : (left * factor).z = left.z * factor := rfl

theorem dot_eq : left.dot right = left.x * right.x + left.y * right.y + left.z * right.z := rfl

theorem dot_mul_left : (left * factor).dot right = factor * left.dot right := by
  simp only [dot_eq, mul_x, mul_y, mul_z]
  ring

theorem dot_mul_right : left.dot (right * factor) = factor * left.dot right := by
  simp only [dot_eq, mul_x, mul_y, mul_z]
  ring

theorem dot_self_nonneg (vector : Vector3 ℝ) : 0 ≤ vector.dot vector := by
  exact add_nonneg (add_nonneg (mul_self_nonneg _) (mul_self_nonneg _)) (mul_self_nonneg _)

/-! ### Lengths -/

theorem length_eq (vector : Vector3 ℝ) : vector.length = √(vector.dot vector) := rfl

theorem length_nonneg (vector : Vector3 ℝ) : 0 ≤ vector.length :=
  Real.sqrt_nonneg _

theorem length_mul_self (vector : Vector3 ℝ) : vector.length * vector.length = vector.dot vector :=
  Real.mul_self_sqrt vector.dot_self_nonneg

theorem length_eq_one_iff {vector : Vector3 ℝ} : vector.length = 1 ↔ vector.dot vector = 1 := by
  rw [length_eq, Real.sqrt_eq_one]

/-- Lengths are compared as their squares are. -/
theorem length_eq_iff {vector : Vector3 ℝ} {length : ℝ} (nonneg : 0 ≤ length) :
    vector.length = length ↔ vector.dot vector = length * length := by
  rw [length_eq, Real.sqrt_eq_iff_mul_self_eq vector.dot_self_nonneg nonneg, eq_comm]

theorem length_le_iff {vector : Vector3 ℝ} {length : ℝ} (nonneg : 0 ≤ length) :
    vector.length ≤ length ↔ vector.dot vector ≤ length * length := by
  rw [length_eq, Real.sqrt_le_left nonneg, sq]

theorem eq_of_length_sub_eq_zero {left right : Vector3 ℝ} (isZero : (left - right).length = 0) :
    left = right := by
  rw [length_eq_iff le_rfl, mul_zero] at isZero
  have noneLonger := mul_self_nonneg (left - right).x
  have noneWider := mul_self_nonneg (left - right).y
  have noneDeeper := mul_self_nonneg (left - right).z
  rw [dot_eq] at isZero
  ext
  · exact sub_eq_zero.mp (mul_self_eq_zero.mp (by linarith : (left - right).x * (left - right).x = 0))
  · exact sub_eq_zero.mp (mul_self_eq_zero.mp (by linarith : (left - right).y * (left - right).y = 0))
  · exact sub_eq_zero.mp (mul_self_eq_zero.mp (by linarith : (left - right).z * (left - right).z = 0))

/-! ### Unit vectors -/

theorem normalize_eq (vector : Vector3 ℝ) : vector.normalize = vector * (1 / vector.length) := by
  change vector * ((1.0 : ℝ) / vector.length) = _
  norm_num

/-- A vector is its length times its direction. -/
theorem normalize_mul_length {vector : Vector3 ℝ} (positive : 0 < vector.length) :
    vector.normalize * vector.length = vector := by
  have cancels : 1 / vector.length * vector.length = 1 := one_div_mul_cancel positive.ne'
  have coordinate : ∀ value : ℝ, value * (1 / vector.length) * vector.length = value :=
    fun value => by rw [mul_assoc, cancels, mul_one]
  rw [normalize_eq]
  exact ext (coordinate _) (coordinate _) (coordinate _)

theorem length_normalize {vector : Vector3 ℝ} (positive : 0 < vector.length) :
    vector.normalize.length = 1 := by
  rw [length_eq_one_iff, normalize_eq, dot_mul_left, dot_mul_right, ← length_mul_self]
  field_simp

end Vector3

/-! ### Points of a ray -/

namespace Ray

variable {ray : Ray ℝ}

theorem pointAt_eq (ray : Ray ℝ) (place : ℝ) :
    ray.pointAt place = ray.origin + ray.direction * place := rfl

/-- The ray toward a point comes to it after the distance between the two. -/
theorem pointAt_toward {origin target : Vector3 ℝ} (positive : 0 < (target - origin).length) :
    Ray.pointAt ⟨origin, (target - origin).normalize⟩ (target - origin).length = target := by
  rw [pointAt_eq, Vector3.normalize_mul_length positive]
  ext <;> simp

end Ray

end Throughput.RayTracing
