import Mathlib.Tactic.Linarith
import Throughput.Proofs.RayTracing.Entry
import Throughput.Proofs.RayTracing.Nearest

/-!
Contract: which points of a scene lie in shadow, in exact arithmetic.

Owns:
- `Scene.ClearView`, a ray that meets a sphere in general position;
- when a ray that starts outside all spheres meets nothing: exactly if it stays
  outside them, but for those on whose surface it starts;
- the light that falls on the point of a clear view, and the theorem about its
  colour;
- a scene in which a point is in shadow though nothing stands before the light.

The ray that looks for a shadow has no end. What stands behind the light counts
for it like what stands before; and a sphere on whose surface the point lies
does not count.
-/

namespace Throughput.RayTracing

variable [Elementary]

/-! ### A ray that starts outside a sphere -/

namespace Sphere

variable {sphere : Sphere ℝ} {ray : Ray ℝ} {entry place : ℝ}

theorem EnteredAt.radius_ne_zero (unit : ray.direction.length = 1)
    (entered : sphere.EnteredAt ray entry) : sphere.radius ≠ 0 := by
  obtain ⟨exit, before, _, power_eq⟩ := entered.exists_exit unit
  have inside : sphere.power (ray.pointAt ((entry + exit) / 2)) < 0 := by
    rw [power_eq]
    exact mul_neg_of_pos_of_neg (by linarith) (by linarith)
  intro isZero
  rw [power, isZero, mul_zero, sub_zero] at inside
  exact absurd (Vector3.dot_self_nonneg _) (not_le.mpr inside)

/-- A ray that starts outside a sphere and comes inside has entered it on its
way. -/
theorem exists_enteredAt_ahead (unit : ray.direction.length = 1)
    (outside : 0 < sphere.power ray.origin) (ahead : 0 < place)
    (inside : sphere.power (ray.pointAt place) < 0) :
    ∃ entry, 0 < entry ∧ entry < place ∧ sphere.EnteredAt ray entry := by
  obtain ⟨entry, before, entered⟩ := exists_enteredAt unit inside
  obtain ⟨exit, _, product, power_eq⟩ := entered.exists_exit unit
  rw [power_eq] at inside
  have notPast : place < exit := by
    by_contra past
    exact absurd inside (not_lt.mpr (mul_nonneg (by linarith) (by linarith)))
  refine ⟨entry, ?_, before, entered⟩
  exact (pos_iff_pos_of_mul_pos (product ▸ outside)).mpr (ahead.trans notPast)

theorem exists_inside (unit : ray.direction.length = 1) (entered : sphere.EnteredAt ray entry)
    (ahead : 0 < entry) : ∃ place, 0 < place ∧ sphere.power (ray.pointAt place) < 0 := by
  obtain ⟨exit, before, _, power_eq⟩ := entered.exists_exit unit
  refine ⟨(entry + exit) / 2, by linarith, ?_⟩
  rw [power_eq]
  exact mul_neg_of_pos_of_neg (by linarith) (by linarith)

end Sphere

namespace Scene

variable {scene : Scene ℝ} {ray : Ray ℝ} {hit : Hit ℝ}

/-- No sphere is entered so near to the origin of a ray that it does not count. -/
def EntersFar (scene : Scene ℝ) (ray : Ray ℝ) : Prop :=
  ∀ sphere ∈ scene.spheres, ∀ entry, sphere.EnteredAt ray entry → 0 < entry → leastDistance < entry

/-- A ray that starts within no sphere meets nothing exactly if it does not come
inside any sphere but those on whose surface it starts. -/
theorem nearest_eq_none_iff_outside (unit : ray.direction.length = 1)
    (started : ∀ sphere ∈ scene.spheres, 0 ≤ sphere.power ray.origin)
    (far : scene.EntersFar ray) :
    scene.nearest ray = none ↔
      ∀ sphere ∈ scene.spheres, 0 < sphere.power ray.origin →
        ∀ place, 0 < place → 0 ≤ sphere.power (ray.pointAt place) := by
  rw [nearest_eq_none_iff]
  constructor
  · intro silent sphere member outside place ahead
    by_contra inside
    obtain ⟨entry, entryAhead, _, entered⟩ :=
      Sphere.exists_enteredAt_ahead unit outside ahead (not_le.mp inside)
    have counts := far sphere member entry entered entryAhead
    rw [leastDistance_eq] at counts
    have found := (Sphere.intersect_eq_some_iff unit).mpr ⟨entered, counts⟩
    exact Option.some_ne_none _ (found.symm.trans (silent sphere member))
  · intro clear sphere member
    refine Sphere.intersect_eq_none unit fun entry entered => ?_
    rcases (started sphere member).eq_or_lt with surface | outside
    · exact entered.le_zero unit surface.ge
    · by_contra ahead
      obtain ⟨place, placeAhead, inside⟩ := Sphere.exists_inside unit entered (not_le.mp ahead)
      exact absurd inside (not_lt.mpr (clear sphere member outside place placeAhead))

end Scene

/-! ### Clear views -/

/-- The point at which a ray meets a sphere. -/
noncomputable def Hit.point (hit : Hit ℝ) (ray : Ray ℝ) : Vector3 ℝ :=
  ray.pointAt hit.distance

/-- The outward unit vector of the sphere at that point. -/
noncomputable def Hit.normal (hit : Hit ℝ) (ray : Ray ℝ) : Vector3 ℝ :=
  (hit.point ray - hit.sphere.center).normalize

/-- The ray from a point toward the light. -/
noncomputable def Scene.shadowRay (scene : Scene ℝ) (point : Vector3 ℝ) : Ray ℝ :=
  ⟨point, (scene.light - point).normalize⟩

/-- A ray that meets a sphere. It starts outside all spheres, the light is outside
them too, and neither this ray nor the one toward the light enters a sphere so near
to its origin that it does not count. -/
structure Scene.ClearView (scene : Scene ℝ) (ray : Ray ℝ) (hit : Hit ℝ) : Prop where
  unit : ray.direction.length = 1
  outside : ∀ sphere ∈ scene.spheres, 0 < sphere.power ray.origin
  lightOutside : ∀ sphere ∈ scene.spheres, 0 < sphere.power scene.light
  isNearest : scene.nearest ray = some hit
  far : scene.EntersFar ray
  shadowFar : scene.EntersFar (scene.shadowRay (hit.point ray))

namespace Scene.ClearView

variable {scene : Scene ℝ} {ray : Ray ℝ} {hit : Hit ℝ}

theorem entered (view : scene.ClearView ray hit) : hit.sphere.EnteredAt ray hit.distance :=
  ((Sphere.intersect_eq_some_iff view.unit).mp (nearest_spec view.isNearest).2.1).1

theorem power_point (view : scene.ClearView ray hit) : hit.sphere.power (hit.point ray) = 0 :=
  view.entered.power_eq_zero

/-- The point is inside no sphere: the ray would have met that one before. -/
theorem power_point_nonneg (view : scene.ClearView ray hit) {sphere : Sphere ℝ}
    (member : sphere ∈ scene.spheres) : 0 ≤ sphere.power (hit.point ray) := by
  obtain ⟨_, found, least⟩ := nearest_spec view.isNearest
  have ahead : 0 < hit.distance := by
    have counts := ((Sphere.intersect_eq_some_iff view.unit).mp found).2
    linarith
  by_contra inside
  obtain ⟨entry, entryAhead, before, entered⟩ :=
    Sphere.exists_enteredAt_ahead view.unit (view.outside sphere member) ahead (not_le.mp inside)
  have counts := view.far sphere member entry entered entryAhead
  rw [leastDistance_eq] at counts
  have notNearer :=
    least sphere member entry ((Sphere.intersect_eq_some_iff view.unit).mpr ⟨entered, counts⟩)
  linarith

theorem length_fromCenter (view : scene.ClearView ray hit) :
    (hit.point ray - hit.sphere.center).length = |hit.sphere.radius| := by
  rw [Vector3.length_eq_iff (abs_nonneg _), abs_mul_abs_self]
  exact sub_eq_zero.mp view.power_point

theorem fromCenter_pos (view : scene.ClearView ray hit) :
    0 < (hit.point ray - hit.sphere.center).length := by
  rw [view.length_fromCenter]
  exact abs_pos.mpr (view.entered.radius_ne_zero view.unit)

theorem length_normal (view : scene.ClearView ray hit) : (hit.normal ray).length = 1 :=
  Vector3.length_normalize view.fromCenter_pos

theorem normal_mul_radius (view : scene.ClearView ray hit) :
    hit.normal ray * |hit.sphere.radius| = hit.point ray - hit.sphere.center := by
  rw [← view.length_fromCenter]
  exact Vector3.normalize_mul_length view.fromCenter_pos

/-- The light is not at the point that it falls on. -/
theorem way_pos (view : scene.ClearView ray hit) : 0 < (scene.light - hit.point ray).length := by
  refine (Vector3.length_nonneg _).lt_of_ne' fun isZero => ?_
  have outside := view.lightOutside _ (nearest_spec view.isNearest).1
  rw [Vector3.eq_of_length_sub_eq_zero isZero, view.power_point] at outside
  exact absurd outside (lt_irrefl 0)

theorem length_towardLight (view : scene.ClearView ray hit) :
    (scene.shadowRay (hit.point ray)).direction.length = 1 :=
  Vector3.length_normalize view.way_pos

theorem shadowRay_pointAt_way (view : scene.ClearView ray hit) :
    (scene.shadowRay (hit.point ray)).pointAt (scene.light - hit.point ray).length = scene.light :=
  Ray.pointAt_toward view.way_pos

/-- Along the ray toward the light, the power of the sphere that was met grows
with the cosine of the light. -/
theorem power_shadow (view : scene.ClearView ray hit) (place : ℝ) :
    hit.sphere.power ((scene.shadowRay (hit.point ray)).pointAt place) =
      place * (place + 2 * |hit.sphere.radius| *
        (hit.normal ray).dot (scene.shadowRay (hit.point ray)).direction) := by
  have slope : hit.sphere.halfSlope (scene.shadowRay (hit.point ray)) =
      |hit.sphere.radius| *
        (hit.normal ray).dot (scene.shadowRay (hit.point ray)).direction := by
    rw [← Vector3.dot_mul_left, view.normal_mul_radius]
    rfl
  have surface : hit.sphere.power (scene.shadowRay (hit.point ray)).origin = 0 := view.power_point
  rw [Sphere.power_pointAt view.length_towardLight, slope, surface]
  ring

/-- No light falls on the point from the inside of the sphere, nor is it the
sphere itself that keeps light from its lit side. -/
theorem power_shadow_pos (view : scene.ClearView ray hit)
    (lit : 0 ≤ (hit.normal ray).dot (scene.shadowRay (hit.point ray)).direction)
    {place : ℝ} (ahead : 0 < place) :
    0 < hit.sphere.power ((scene.shadowRay (hit.point ray)).pointAt place) := by
  rw [view.power_shadow]
  have radius := abs_nonneg hit.sphere.radius
  positivity

end Scene.ClearView

/-! ### The colour of a point -/

theorem Colour.scale_add (colour : Colour ℝ) (left right : ℝ) :
    colour.scale left + colour.scale right = colour.scale (left + right) := by
  have channel : ∀ value : ℝ, value * left + value * right = value * (left + right) :=
    fun value => (mul_add value left right).symm
  exact congr (congr (congrArg Colour.mk (channel _)) (channel _)) (channel _)

theorem Colour.clampChannel_eq (channel : ℝ) :
    Colour.clampChannel channel = max 0 (min 1 channel) := by
  have zero : (0.0 : ℝ) = 0 := by norm_num
  have one : (1.0 : ℝ) = 1 := by norm_num
  rw [clampChannel, zero, one]
  split
  · next dark => rw [max_eq_left (min_le_of_right_le dark.le)]
  · next notDark =>
    split
    · next bright => rw [min_eq_left bright.le, max_eq_right zero_le_one]
    · next notBright => rw [min_eq_right (not_lt.mp notBright), max_eq_right (not_lt.mp notDark)]

theorem ambience_eq : (ambience : ℝ) = 0.2 := rfl

namespace Scene

variable {scene : Scene ℝ} {ray : Ray ℝ} {hit : Hit ℝ}

theorem diffuse_of_none {point normal : Vector3 ℝ}
    (free : scene.nearest (scene.shadowRay point) = none) :
    scene.diffuse point normal = max 0 (normal.dot (scene.shadowRay point).direction) := by
  have zero : (0.0 : ℝ) = 0 := by norm_num
  rw [shadowRay] at free
  simp only [diffuse, free, Scalar.larger_eq_max]
  rw [zero, max_comm]
  rfl

theorem diffuse_of_ne_none {point normal : Vector3 ℝ}
    (blocked : scene.nearest (scene.shadowRay point) ≠ none) :
    scene.diffuse point normal = 0 := by
  have zero : (0.0 : ℝ) = 0 := by norm_num
  obtain ⟨blocker, isBlocker⟩ := Option.ne_none_iff_exists'.mp blocked
  rw [shadowRay] at isBlocker
  simp only [diffuse, isBlocker]
  exact zero

theorem shade_eq (isNearest : scene.nearest ray = some hit) :
    scene.shade ray =
      (hit.sphere.colour.scale
        (0.2 + scene.diffuse (hit.point ray) (hit.normal ray))).clamp := by
  rw [shade, isNearest, ← ambience_eq, ← Colour.scale_add]
  rfl

/-- The point of a clear view is free of shadow exactly if no sphere that it does
not lie on is met by the ray toward the light, which has no end. -/
theorem ClearView.nearest_shadow_iff (view : scene.ClearView ray hit) :
    scene.nearest (scene.shadowRay (hit.point ray)) = none ↔
      ∀ sphere ∈ scene.spheres, 0 < sphere.power (hit.point ray) → ∀ place, 0 < place →
        0 ≤ sphere.power ((scene.shadowRay (hit.point ray)).pointAt place) :=
  nearest_eq_none_iff_outside view.length_towardLight (fun _ => view.power_point_nonneg)
    view.shadowFar

end Scene

/-- The colour of a point that a ray meets, and what keeps light from it. It is the
colour of the sphere, as bright as the ambience and the light that falls on the point.
That is none if the ray toward the light comes inside a sphere that the point does not
lie on, be it before the light or behind; otherwise it is the cosine of the light, if
this is positive. So where no sphere stands behind the light and no other passes
through the point, it is in shadow exactly if a sphere stands between it and the
light. The sphere that is met never stands between its lit side and the light. -/
theorem shade_of_clearView
    (scene : Scene ℝ)
    (ray : Ray ℝ)
    (hit : Hit ℝ)
    (view : scene.ClearView ray hit) :
    let point := hit.point ray
    let normal := hit.normal ray
    let shadow := scene.shadowRay point
    let way := (scene.light - point).length
    let cosine := normal.dot shadow.direction
    (normal.length = 1 ∧ normal * |hit.sphere.radius| = point - hit.sphere.center) ∧
    (shadow.direction.length = 1 ∧ shadow.pointAt way = scene.light) ∧
    (0 < cosine → ∀ place, 0 < place → 0 < hit.sphere.power (shadow.pointAt place)) ∧
    ∃ diffuse, scene.shade ray = (hit.sphere.colour.scale (0.2 + diffuse)).clamp ∧
      ((∃ sphere ∈ scene.spheres, 0 < sphere.power point ∧
        ∃ place, 0 < place ∧ sphere.power (shadow.pointAt place) < 0) → diffuse = 0) ∧
      ((∀ sphere ∈ scene.spheres, 0 < sphere.power point →
        ∀ place, 0 < place → 0 ≤ sphere.power (shadow.pointAt place)) → diffuse = max 0 cosine) ∧
      ((∀ sphere ∈ scene.spheres, ∀ place, way ≤ place →
          0 ≤ sphere.power (shadow.pointAt place)) →
        (∀ sphere ∈ scene.spheres, sphere.power point = 0 → sphere = hit.sphere) →
        ((∃ sphere ∈ scene.spheres, ∃ place, 0 < place ∧ place < way ∧
            sphere.power (shadow.pointAt place) < 0) → diffuse = 0) ∧
        ((∀ sphere ∈ scene.spheres, ∀ place, 0 < place → place < way →
            0 ≤ sphere.power (shadow.pointAt place)) → diffuse = max 0 cosine)) := by
  intro point normal shadow way cosine
  have free : (∀ sphere ∈ scene.spheres, 0 < sphere.power point →
      ∀ place, 0 < place → 0 ≤ sphere.power (shadow.pointAt place)) →
        scene.diffuse point normal = max 0 cosine :=
    fun clear => Scene.diffuse_of_none (view.nearest_shadow_iff.mpr clear)
  have blocked : (∃ sphere ∈ scene.spheres, 0 < sphere.power point ∧
      ∃ place, 0 < place ∧ sphere.power (shadow.pointAt place) < 0) →
        scene.diffuse point normal = 0 := by
    rintro ⟨sphere, member, outside, place, ahead, inside⟩
    refine Scene.diffuse_of_ne_none fun none => ?_
    exact absurd inside
      (not_lt.mpr (view.nearest_shadow_iff.mp none sphere member outside place ahead))
  refine ⟨⟨view.length_normal, view.normal_mul_radius⟩,
    ⟨view.length_towardLight, view.shadowRay_pointAt_way⟩,
    fun lit place ahead => view.power_shadow_pos lit.le ahead,
    scene.diffuse point normal, Scene.shade_eq view.isNearest, blocked, free,
    fun nothingBehind noOther => ⟨?_, fun nothingBefore => ?_⟩⟩
  · rintro ⟨sphere, member, place, ahead, -, inside⟩
    rcases (view.power_point_nonneg member).eq_or_lt with surface | outside
    · -- The sphere is the one that was met, and the point is on its dark side.
      obtain rfl := noOther sphere member surface.symm
      have dark : cosine < 0 := by
        by_contra lit
        exact absurd inside (not_lt.mpr (view.power_shadow_pos (not_lt.mp lit) ahead).le)
      by_cases clear : scene.nearest shadow = none
      · exact (Scene.diffuse_of_none clear).trans (max_eq_left dark.le)
      · exact Scene.diffuse_of_ne_none clear
    · exact blocked ⟨sphere, member, outside, place, ahead, inside⟩
  · refine free fun sphere member _ place ahead => ?_
    rcases lt_or_ge place way with before | behind
    · exact nothingBefore sphere member place ahead before
    · exact nothingBehind sphere member place behind

/-! ### A ball behind the light -/

/-- A white ball of radius one on the third axis. -/
noncomputable def axisBall (center : ℝ) : Sphere ℝ := ⟨⟨0, 0, center⟩, 1, ⟨1, 1, 1⟩⟩

noncomputable def axisRay (start speed : ℝ) : Ray ℝ := ⟨⟨0, 0, start⟩, ⟨0, 0, speed⟩⟩

/-- Two balls, and the light between them. -/
noncomputable def lightBetweenBalls : Scene ℝ where
  camera := ⟨⟨0, 0, 0⟩, ⟨0, 0, 0⟩, ⟨0, 0, 0⟩, ⟨0, 0, 0⟩⟩
  spheres := [axisBall 5.0, axisBall (-10.0)]
  light := ⟨0, 0, 2.0⟩

/-- Where the ray from zero meets the first of the balls. -/
noncomputable def frontOfBall : Hit ℝ := ⟨4.0, axisBall 5.0, 0⟩

section LightBetweenBalls

variable {center start speed entry place : ℝ}

theorem length_axis (place : ℝ) : Vector3.length ⟨0, 0, place⟩ = |place| := by
  rw [Vector3.length_eq_iff (abs_nonneg _), abs_mul_abs_self, Vector3.dot_eq]
  norm_num

theorem axisRay_pointAt (start speed place : ℝ) :
    (axisRay start speed).pointAt place = ⟨0, 0, start + speed * place⟩ := by
  ext <;> simp [axisRay, Ray.pointAt_eq]

theorem axisBall_power (center place : ℝ) :
    (axisBall center).power ⟨0, 0, place⟩ = (place - center) * (place - center) - 1 := by
  simp [axisBall, Sphere.power, Vector3.dot_eq]

/-- A line along the axis enters a ball at one of its two ends. -/
theorem axisBall_ends (entered : (axisBall center).EnteredAt (axisRay start speed) entry) :
    start + speed * entry = center - 1 ∨ start + speed * entry = center + 1 := by
  have surface := entered.power_eq_zero
  rw [axisRay_pointAt, axisBall_power] at surface
  have ends : (start + speed * entry - (center - 1)) * (start + speed * entry - (center + 1)) = 0 := by
    linear_combination surface
  rcases mul_eq_zero.mp ends with first | second
  · exact .inl (sub_eq_zero.mp first)
  · exact .inr (sub_eq_zero.mp second)

theorem frontOfBall_point : frontOfBall.point (axisRay 0 1) = ⟨0, 0, 4⟩ := by
  rw [Hit.point, frontOfBall, axisRay_pointAt]
  norm_num

theorem frontOfBall_normal : frontOfBall.normal (axisRay 0 1) = ⟨0, 0, -1⟩ := by
  have fromCenter : (⟨0, 0, 4⟩ : Vector3 ℝ) - frontOfBall.sphere.center = ⟨0, 0, -1⟩ := by
    ext <;> norm_num [frontOfBall, axisBall]
  rw [Hit.normal, frontOfBall_point, fromCenter, Vector3.normalize_eq, length_axis]
  ext <;> norm_num

theorem lightBetweenBalls_way : lightBetweenBalls.light - (⟨0, 0, 4⟩ : Vector3 ℝ) = ⟨0, 0, -2⟩ := by
  ext <;> norm_num [lightBetweenBalls]

theorem lightBetweenBalls_shadowRay :
    lightBetweenBalls.shadowRay ⟨0, 0, 4⟩ = axisRay 4 (-1) := by
  rw [Scene.shadowRay, lightBetweenBalls_way, Vector3.normalize_eq, length_axis, axisRay]
  congr
  ext <;> norm_num

theorem axisRay_unit : (axisRay 0 1).direction.length = 1 := by
  rw [axisRay, length_axis, abs_one]

theorem lightBetweenBalls_nearest :
    lightBetweenBalls.nearest (axisRay 0 1) = some frontOfBall := by
  have first : (axisBall 5.0).intersect (axisRay 0 1) = some (4.0 : ℝ) := by
    refine (Sphere.intersect_eq_some_iff axisRay_unit).mpr
      ⟨⟨6, by norm_num, fun place => ?_⟩, by norm_num⟩
    have roots : (axisBall 5.0).power ((axisRay 0 1).pointAt place) =
        (place - 4.0) * (place - 6) := by
      have five : (5.0 : ℝ) = 5 := by norm_num
      have four : (4.0 : ℝ) = 4 := by norm_num
      rw [axisRay_pointAt, axisBall_power, five, four]
      ring
    rw [roots, mul_eq_zero, sub_eq_zero, sub_eq_zero]
  have second : (axisBall (-10.0)).intersect (axisRay 0 1) = (none : Option ℝ) := by
    refine Sphere.intersect_eq_none axisRay_unit fun entry entered => ?_
    rcases axisBall_ends entered with ends | ends <;> linarith
  simp [Scene.nearest, Scene.hits, lightBetweenBalls, first, second, Hit.nearer, frontOfBall]

theorem lightBetweenBalls_clearView :
    lightBetweenBalls.ClearView (axisRay 0 1) frontOfBall where
  unit := axisRay_unit
  outside := by
    simp only [lightBetweenBalls, axisRay, List.forall_mem_cons, axisBall_power]
    norm_num
  lightOutside := by
    simp only [lightBetweenBalls, List.forall_mem_cons, axisBall_power]
    norm_num
  isNearest := lightBetweenBalls_nearest
  far := by
    simp only [Scene.EntersFar, lightBetweenBalls, List.forall_mem_cons, leastDistance_eq]
    refine ⟨fun entry entered _ => ?_, fun entry entered _ => ?_, nofun⟩
    · rcases axisBall_ends entered with ends | ends <;> linarith
    · rcases axisBall_ends entered with ends | ends <;> linarith
  shadowFar := by
    rw [frontOfBall_point, Scene.EntersFar, lightBetweenBalls_shadowRay]
    simp only [lightBetweenBalls, List.forall_mem_cons, leastDistance_eq]
    refine ⟨fun entry entered _ => ?_, fun entry entered _ => ?_, nofun⟩
    · rcases axisBall_ends entered with ends | ends <;> linarith
    · rcases axisBall_ends entered with ends | ends <;> linarith

/-- The ray toward the light comes inside the other ball, fourteen units ahead. -/
theorem lightBetweenBalls_blocked :
    ∃ sphere ∈ lightBetweenBalls.spheres, 0 < sphere.power (frontOfBall.point (axisRay 0 1)) ∧
      ∃ place, 0 < place ∧
        sphere.power
          ((lightBetweenBalls.shadowRay (frontOfBall.point (axisRay 0 1))).pointAt place) < 0 := by
  rw [frontOfBall_point, lightBetweenBalls_shadowRay]
  refine ⟨_, List.mem_cons_of_mem _ (List.mem_singleton_self _), ?_, 14, by norm_num, ?_⟩
  · rw [axisBall_power]
    norm_num
  · rw [axisRay_pointAt, axisBall_power]
    norm_num

end LightBetweenBalls

omit [Elementary] in
/-- A point with a ball behind the light has the ambience alone. -/
theorem lightBetweenBalls_dark :
    letI := Elementary.analysis
    lightBetweenBalls.ClearView (axisRay 0 1) frontOfBall ∧
      lightBetweenBalls.shade (axisRay 0 1) =
        (frontOfBall.sphere.colour.scale (0.2 + 0)).clamp := by
  let := Elementary.analysis
  have view := lightBetweenBalls_clearView
  obtain ⟨-, -, -, diffuse, shade_eq, blocked, -, -⟩ := shade_of_clearView _ _ _ view
  rw [blocked lightBetweenBalls_blocked] at shade_eq
  exact ⟨view, shade_eq⟩

omit [Elementary] in
/-- It is not only what stands before the light that keeps it from a point: here
nothing does, the light falls on the point from straight ahead, and the point is
dark. -/
theorem shadow_from_behind_light :
    letI := Elementary.analysis
    let point := frontOfBall.point (axisRay 0 1)
    let shadow := lightBetweenBalls.shadowRay point
    let cosine := (frontOfBall.normal (axisRay 0 1)).dot shadow.direction
    lightBetweenBalls.ClearView (axisRay 0 1) frontOfBall ∧
      (∀ sphere ∈ lightBetweenBalls.spheres, ∀ place, 0 < place →
        place < (lightBetweenBalls.light - point).length →
          0 ≤ sphere.power (shadow.pointAt place)) ∧
      lightBetweenBalls.shade (axisRay 0 1) = ⟨0.2, 0.2, 0.2⟩ ∧
      (frontOfBall.sphere.colour.scale (0.2 + max 0 cosine)).clamp = ⟨1, 1, 1⟩ := by
  let := Elementary.analysis
  intro point shadow cosine
  have isShadow : shadow = axisRay 4 (-1) := by
    rw [← lightBetweenBalls_shadowRay, ← frontOfBall_point]
  have isCosine : cosine = 1 := by
    change (frontOfBall.normal (axisRay 0 1)).dot shadow.direction = 1
    rw [isShadow, frontOfBall_normal, Vector3.dot_eq]
    norm_num [axisRay]
  have white : ∀ factor, (frontOfBall.sphere.colour.scale factor).clamp =
      ⟨max 0 (min 1 (1 * factor)), max 0 (min 1 (1 * factor)), max 0 (min 1 (1 * factor))⟩ := by
    intro factor
    rw [← Colour.clampChannel_eq]
    rfl
  have dark : lightBetweenBalls.diffuse (frontOfBall.point (axisRay 0 1))
      (frontOfBall.normal (axisRay 0 1)) = 0 := by
    refine Scene.diffuse_of_ne_none fun free => ?_
    obtain ⟨sphere, member, outside, place, ahead, inside⟩ := lightBetweenBalls_blocked
    exact absurd inside (not_lt.mpr (lightBetweenBalls_clearView.nearest_shadow_iff.mp free
      sphere member outside place ahead))
  refine ⟨lightBetweenBalls_clearView, ?_, ?_, ?_⟩
  · change ∀ sphere ∈ lightBetweenBalls.spheres, ∀ place, 0 < place →
      place < (lightBetweenBalls.light - frontOfBall.point (axisRay 0 1)).length → _
    rw [frontOfBall_point, lightBetweenBalls_way, length_axis, isShadow]
    norm_num only [lightBetweenBalls, List.forall_mem_cons, axisRay_pointAt, axisBall_power, abs_neg]
    refine ⟨fun place ahead before => ?_, fun place ahead before => ?_, nofun⟩
    · nlinarith
    · nlinarith
  · rw [Scene.shade_eq lightBetweenBalls_nearest, dark, white]
    norm_num
  · rw [isCosine, white]
    norm_num

end Throughput.RayTracing
