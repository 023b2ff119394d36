import Mathlib.Tactic.LinearCombination
import Throughput.Proofs.RayTracing.Vectors

/-!
Contract: where a ray enters a sphere.

Owns:
- `Sphere.power`, which is negative inside a sphere, zero on it and positive
  outside, and its course along a ray;
- `Sphere.EnteredAt`, the first of the two points that a line has in common
  with a sphere;
- what `Sphere.intersect` answers, by this point;
- the theorem that says the same in terms of distances from the center.

Along a ray with a unit direction the power of a point is a quadratic function
of its place, with leading coefficient one. All that is said of a line and a
sphere is read off its two roots.
-/

namespace Throughput.RayTracing

variable [Elementary]

theorem leastDistance_eq : (leastDistance : ℝ) = 1 / 1000000 := by
  change (0.000001 : ℝ) = _
  norm_num

/-! ### The power of a point -/

namespace Sphere

/-- The square of the distance from the center, less the square of the radius:
negative inside the sphere, zero on it, positive outside. -/
noncomputable def power (sphere : Sphere ℝ) (point : Vector3 ℝ) : ℝ :=
  (point - sphere.center).dot (point - sphere.center) - sphere.radius * sphere.radius

section Power

variable {sphere : Sphere ℝ} {point : Vector3 ℝ}

theorem power_eq_zero_iff (positive : 0 < sphere.radius) :
    sphere.power point = 0 ↔ (point - sphere.center).length = sphere.radius := by
  rw [power, Vector3.length_eq_iff positive.le, sub_eq_zero]

theorem power_nonpos_iff (positive : 0 < sphere.radius) :
    sphere.power point ≤ 0 ↔ (point - sphere.center).length ≤ sphere.radius := by
  rw [power, Vector3.length_le_iff positive.le, sub_nonpos]

theorem power_pos_iff (positive : 0 < sphere.radius) :
    0 < sphere.power point ↔ sphere.radius < (point - sphere.center).length := by
  rw [← not_le, power_nonpos_iff positive, not_le]

end Power

/-! ### Along a ray -/

/-- How fast the distance from the center grows at the origin of a ray. -/
noncomputable def halfSlope (sphere : Sphere ℝ) (ray : Ray ℝ) : ℝ :=
  (ray.origin - sphere.center).dot ray.direction

/-- The discriminant of the power along a ray. -/
noncomputable def discriminant (sphere : Sphere ℝ) (ray : Ray ℝ) : ℝ :=
  sphere.halfSlope ray * sphere.halfSlope ray - sphere.power ray.origin

theorem discriminant_eq (sphere : Sphere ℝ) (ray : Ray ℝ) :
    sphere.discriminant ray =
      sphere.halfSlope ray * sphere.halfSlope ray - sphere.power ray.origin := rfl

/-- The line of a ray has two points in common with a sphere, and this is the
place of the first. -/
def EnteredAt (sphere : Sphere ℝ) (ray : Ray ℝ) (entry : ℝ) : Prop :=
  ∃ exit, entry < exit ∧
    ∀ place, sphere.power (ray.pointAt place) = 0 ↔ place = entry ∨ place = exit

section Rays

variable {sphere : Sphere ℝ} {ray : Ray ℝ} {entry exit place : ℝ}

theorem power_pointAt (unit : ray.direction.length = 1) (place : ℝ) :
    sphere.power (ray.pointAt place) =
      place * place + 2 * sphere.halfSlope ray * place + sphere.power ray.origin := by
  have square := Vector3.length_eq_one_iff.mp unit
  simp only [power, halfSlope, Ray.pointAt_eq, Vector3.dot_eq, Vector3.sub_x, Vector3.sub_y,
    Vector3.sub_z, Vector3.add_x, Vector3.add_y, Vector3.add_z, Vector3.mul_x, Vector3.mul_y,
    Vector3.mul_z] at square ⊢
  linear_combination place * place * square

/-- Two places of power zero are the roots of the power. -/
theorem roots_of_power (unit : ray.direction.length = 1) (before : entry < exit)
    (atEntry : sphere.power (ray.pointAt entry) = 0)
    (atExit : sphere.power (ray.pointAt exit) = 0) :
    entry + exit = -2 * sphere.halfSlope ray ∧ entry * exit = sphere.power ray.origin := by
  rw [power_pointAt unit] at atEntry atExit
  have sum : entry + exit = -2 * sphere.halfSlope ray := by
    refine mul_left_cancel₀ (sub_ne_zero.mpr before.ne) ?_
    linear_combination atEntry - atExit
  refine ⟨sum, ?_⟩
  linear_combination entry * sum - atEntry

/-- A place on a line that comes to a sphere first at `entry` and last at
`exit` has their distances from it as factors of its power. -/
theorem power_eq_mul (unit : ray.direction.length = 1)
    (sum : entry + exit = -2 * sphere.halfSlope ray)
    (product : entry * exit = sphere.power ray.origin) (place : ℝ) :
    sphere.power (ray.pointAt place) = (place - entry) * (place - exit) := by
  rw [power_pointAt unit]
  linear_combination place * sum - product

/-- The line of a ray enters a sphere at a place exactly if this is the smaller
of two roots. -/
theorem enteredAt_iff (unit : ray.direction.length = 1) :
    sphere.EnteredAt ray entry ↔
      0 < sphere.discriminant ray ∧
        entry = -sphere.halfSlope ray - √(sphere.discriminant ray) := by
  constructor
  · rintro ⟨exit, before, crosses⟩
    obtain ⟨sum, product⟩ := roots_of_power unit before ((crosses entry).mpr (.inl rfl))
      ((crosses exit).mpr (.inr rfl))
    have half : 0 < (exit - entry) / 2 := by linarith
    have square : sphere.discriminant ray = (exit - entry) / 2 * ((exit - entry) / 2) := by
      have slope : sphere.halfSlope ray = -(entry + exit) / 2 := by linarith
      rw [discriminant_eq, slope, ← product]
      ring
    rw [square, Real.sqrt_mul_self half.le]
    exact ⟨mul_pos half half, by linarith⟩
  · rintro ⟨positive, rfl⟩
    have root := Real.sqrt_pos.mpr positive
    have square := Real.mul_self_sqrt positive.le
    have product : (-sphere.halfSlope ray - √(sphere.discriminant ray)) *
        (-sphere.halfSlope ray + √(sphere.discriminant ray)) = sphere.power ray.origin := by
      linear_combination -square - discriminant_eq sphere ray
    refine ⟨-sphere.halfSlope ray + √(sphere.discriminant ray), by linarith, fun place => ?_⟩
    rw [power_eq_mul unit (by ring) product, mul_eq_zero, sub_eq_zero, sub_eq_zero]

/-- Where a line enters a sphere, the power has the two places of its surface
as roots. -/
theorem EnteredAt.exists_exit (unit : ray.direction.length = 1)
    (entered : sphere.EnteredAt ray entry) :
    ∃ exit, entry < exit ∧ entry * exit = sphere.power ray.origin ∧
      ∀ place, sphere.power (ray.pointAt place) = (place - entry) * (place - exit) := by
  obtain ⟨exit, before, crosses⟩ := entered
  obtain ⟨sum, product⟩ := roots_of_power unit before ((crosses entry).mpr (.inl rfl))
    ((crosses exit).mpr (.inr rfl))
  exact ⟨exit, before, product, power_eq_mul unit sum product⟩

theorem EnteredAt.power_eq_zero (entered : sphere.EnteredAt ray entry) :
    sphere.power (ray.pointAt entry) = 0 := by
  obtain ⟨exit, _, crosses⟩ := entered
  exact (crosses entry).mpr (.inl rfl)

/-- Up to the entry, a line is outside the sphere. -/
theorem EnteredAt.power_pos (unit : ray.direction.length = 1)
    (entered : sphere.EnteredAt ray entry) (before : place < entry) :
    0 < sphere.power (ray.pointAt place) := by
  obtain ⟨exit, later, _, power_eq⟩ := entered.exists_exit unit
  rw [power_eq]
  exact mul_pos_of_neg_of_neg (by linarith) (by linarith)

/-- A line with a point inside a sphere enters it before that point. -/
theorem exists_enteredAt (unit : ray.direction.length = 1)
    (inside : sphere.power (ray.pointAt place) < 0) :
    ∃ entry < place, sphere.EnteredAt ray entry := by
  have square := sq_nonneg (place + sphere.halfSlope ray)
  have isPower : sphere.power (ray.pointAt place) = _ := power_pointAt unit place
  have positive : (place + sphere.halfSlope ray) ^ 2 < sphere.discriminant ray := by
    rw [discriminant_eq]
    linarith
  refine ⟨_, ?_, (enteredAt_iff unit).mpr ⟨square.trans_lt positive, rfl⟩⟩
  linarith [Real.neg_sqrt_lt_of_sq_lt positive]

end Rays

/-! ### The answer -/

section Answer

variable {sphere : Sphere ℝ} {ray : Ray ℝ} {distance : ℝ}

/-- The answer is the place of the entry, if it is not too near. -/
theorem intersect_eq_some_iff (unit : ray.direction.length = 1) :
    sphere.intersect ray = some distance ↔
      sphere.EnteredAt ray distance ∧ 1 / 1000000 < distance := by
  have zero : (0.0 : ℝ) = 0 := by norm_num
  have answer : sphere.intersect ray =
      if sphere.discriminant ray ≤ (0.0 : ℝ) then none
      else if leastDistance < -sphere.halfSlope ray - √(sphere.discriminant ray) then
        some (-sphere.halfSlope ray - √(sphere.discriminant ray)) else none := rfl
  rw [answer, enteredAt_iff unit, zero, leastDistance_eq]
  by_cases misses : sphere.discriminant ray ≤ 0
  · rw [if_pos misses]
    exact iff_of_false nofun fun given => absurd given.1.1 (not_lt.mpr misses)
  rw [if_neg misses]
  split
  · next far =>
    rw [Option.some_inj]
    constructor
    · rintro rfl
      exact ⟨⟨not_le.mp misses, rfl⟩, far⟩
    · exact fun given => given.1.2.symm
  · next near =>
    exact iff_of_false nofun fun given => near (given.1.2 ▸ given.2)

theorem intersect_eq_none (unit : ray.direction.length = 1)
    (never : ∀ entry, sphere.EnteredAt ray entry → entry ≤ 0) : sphere.intersect ray = none := by
  refine Option.eq_none_iff_forall_ne_some.mpr fun distance found => ?_
  obtain ⟨entered, far⟩ := (intersect_eq_some_iff unit).mp found
  linarith [never distance entered]

/-- A ray that starts inside a sphere or on it does not enter it. -/
theorem EnteredAt.le_zero (unit : ray.direction.length = 1)
    (started : sphere.power ray.origin ≤ 0) {entry : ℝ} (entered : sphere.EnteredAt ray entry) :
    entry ≤ 0 := by
  obtain ⟨exit, later, product, _⟩ := entered.exists_exit unit
  by_contra ahead
  have positive : 0 < entry * exit := mul_pos (not_le.mp ahead) (by linarith)
  linarith

end Answer

/-- The distance at which a ray enters a sphere, in terms of the distances of its
points from the center. A distance is found exactly if the line of the ray has two
points in common with the sphere and that of the first is greater than 0.000001;
then it is this one, and all points before it are outside. Nothing is found by a ray
that starts on the sphere or inside, or that has no point in common with it ahead,
or whose origin the center is not ahead of, or whose line has no two points in common
with it. -/
theorem intersect_finds_entry
    (sphere : Sphere ℝ)
    (ray : Ray ℝ)
    (positive : 0 < sphere.radius)
    (unit : ray.direction.length = 1) :
    let distanceAt := fun place => (ray.pointAt place - sphere.center).length
    (∀ entry, sphere.intersect ray = some entry ↔
      (∃ exit, entry < exit ∧
        ∀ place, distanceAt place = sphere.radius ↔ place = entry ∨ place = exit) ∧
      1 / 1000000 < entry) ∧
    (∀ entry, sphere.intersect ray = some entry →
      distanceAt entry = sphere.radius ∧ ∀ place < entry, sphere.radius < distanceAt place) ∧
    ((ray.origin - sphere.center).length ≤ sphere.radius → sphere.intersect ray = none) ∧
    ((∀ place, distanceAt place = sphere.radius → place ≤ 0) → sphere.intersect ray = none) ∧
    ((sphere.center - ray.origin).dot ray.direction ≤ 0 → sphere.intersect ray = none) ∧
    ((∀ first second, distanceAt first = sphere.radius → distanceAt second = sphere.radius →
      first = second) → sphere.intersect ray = none) := by
  intro distanceAt
  have onSphere : ∀ place, sphere.power (ray.pointAt place) = 0 ↔
      distanceAt place = sphere.radius := fun place => power_eq_zero_iff positive
  refine ⟨fun entry => ?_, fun entry found => ?_, fun started => ?_, fun never => ?_,
    fun behind => ?_, fun single => ?_⟩
  · rw [intersect_eq_some_iff unit]
    simp only [EnteredAt, onSphere]
  · obtain ⟨entered, -⟩ := (intersect_eq_some_iff unit).mp found
    exact ⟨(onSphere entry).mp entered.power_eq_zero,
      fun place before => (power_pos_iff positive).mp (entered.power_pos unit before)⟩
  · exact intersect_eq_none unit fun _ entered =>
      entered.le_zero unit ((power_nonpos_iff positive).mpr started)
  · exact intersect_eq_none unit fun entry entered =>
      never entry ((onSphere entry).mp entered.power_eq_zero)
  · refine intersect_eq_none unit fun entry entered => ?_
    obtain ⟨-, rfl⟩ := (enteredAt_iff unit).mp entered
    have opposite : sphere.halfSlope ray = -(sphere.center - ray.origin).dot ray.direction := by
      simp only [halfSlope, Vector3.dot_eq, Vector3.sub_x, Vector3.sub_y, Vector3.sub_z]
      ring
    linarith [Real.sqrt_nonneg (sphere.discriminant ray)]
  · refine intersect_eq_none unit fun entry entered => ?_
    obtain ⟨exit, before, crosses⟩ := entered
    have same := single entry exit ((onSphere entry).mp ((crosses entry).mpr (.inl rfl)))
      ((onSphere exit).mp ((crosses exit).mpr (.inr rfl)))
    exact absurd same before.ne

omit [Elementary] in
/-- A ball of radius one, five units ahead, is entered at four. -/
theorem unit_ball_entered_at_four :
    letI := Elementary.analysis
    let sphere : Sphere ℝ := ⟨⟨0, 0, 5⟩, 1, ⟨1, 1, 1⟩⟩
    let ray : Ray ℝ := ⟨⟨0, 0, 0⟩, ⟨0, 0, 1⟩⟩
    (0 < sphere.radius ∧ ray.direction.length = 1) ∧ sphere.intersect ray = some 4 := by
  let := Elementary.analysis
  intro sphere ray
  have positive : 0 < sphere.radius := one_pos
  have unit : ray.direction.length = 1 := by
    rw [Vector3.length_eq_one_iff, Vector3.dot_eq]
    norm_num [ray]
  refine ⟨⟨positive, unit⟩, ?_⟩
  refine ((intersect_finds_entry sphere ray positive unit).1 4).mpr
    ⟨⟨6, by norm_num, fun place => ?_⟩, by norm_num⟩
  rw [Vector3.length_eq_iff positive.le, Ray.pointAt_eq, Vector3.dot_eq]
  have roots : (place - 4) * (place - 6) = 0 ↔ place = 4 ∨ place = 6 := by
    rw [mul_eq_zero, sub_eq_zero, sub_eq_zero]
  rw [← roots]
  simp only [Vector3.sub_x, Vector3.sub_y, Vector3.sub_z, Vector3.add_x, Vector3.add_y,
    Vector3.add_z, Vector3.mul_x, Vector3.mul_y, Vector3.mul_z, sphere, ray]
  constructor <;> intro equation <;> linear_combination equation

end Sphere

end Throughput.RayTracing
