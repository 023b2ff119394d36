import Mathlib.Tactic.Linarith
import Throughput.Proofs.RayTracing.Rendering
import Throughput.Proofs.RayTracing.Shadow

/-!
Contract: how bright an image can be, in exact arithmetic.

Owns:
- `Colour.channel`, a colour by its channels, and `Colour.InRange`, the colours
  that can be shown;
- the bound on the cosine between two normalized vectors;
- the brightness of a point, between the ambience and full light;
- the theorem about rays, pixels and the checksum of an image.

No line of the program keeps the light on a point from exceeding one. It is the
product of two vectors that have been normalized, and so at most one.
-/

namespace Throughput.RayTracing

/-! ### Channels -/

namespace Colour

inductive Channel where
  | red
  | green
  | blue
deriving DecidableEq, Repr

def channel {α : Type} (colour : Colour α) : Channel → α
  | .red => colour.red
  | .green => colour.green
  | .blue => colour.blue

/-- A colour that can be shown: no channel is darker than dark or brighter than
bright. -/
def InRange (colour : Colour ℝ) : Prop :=
  ∀ channel, 0 ≤ colour.channel channel ∧ colour.channel channel ≤ 1

variable [Elementary] {colour : Colour ℝ}

theorem channel_clamp_scale (colour : Colour ℝ) (factor : ℝ) (channel : Channel) :
    (colour.scale factor).clamp.channel channel =
      max 0 (min 1 (colour.channel channel * factor)) := by
  rw [← clampChannel_eq]
  cases channel <;> rfl

theorem inRange_background : InRange background := by
  have dark : (background : Colour ℝ).channel .red = 0 ∧
      (background : Colour ℝ).channel .green = 0 ∧
        (background : Colour ℝ).channel .blue = 1 / 2 := by
    change (0.0 : ℝ) = 0 ∧ (0.0 : ℝ) = 0 ∧ (0.5 : ℝ) = 1 / 2
    norm_num
  rintro (_ | _ | _)
  · rw [dark.1]
    norm_num
  · rw [dark.2.1]
    norm_num
  · rw [dark.2.2]
    norm_num

theorem InRange.total_bounds (inRange : colour.InRange) : 0 ≤ colour.total ∧ colour.total ≤ 3 := by
  obtain ⟨redDark, redBright⟩ := inRange .red
  obtain ⟨greenDark, greenBright⟩ := inRange .green
  obtain ⟨blueDark, blueBright⟩ := inRange .blue
  simp only [channel] at *
  have isTotal : colour.total = colour.red + colour.green + colour.blue := rfl
  constructor <;> linarith

end Colour

/-! ### Light -/

namespace Vector3

variable [Elementary] {left right : Vector3 ℝ}

/-- A normalized vector is never longer than one; a vector of length zero stays
what it is. -/
theorem length_normalize_le (vector : Vector3 ℝ) : vector.normalize.length ≤ 1 := by
  rcases vector.length_nonneg.eq_or_lt with isZero | positive
  · rw [length_le_iff zero_le_one, normalize_eq, ← isZero, dot_mul_left, div_zero, zero_mul]
    norm_num
  · exact (length_normalize positive).le

/-- The cosine between two vectors no longer than one is at most one: the square of
their difference is not negative. -/
theorem dot_le_one (short : left.length ≤ 1) (shortToo : right.length ≤ 1) :
    left.dot right ≤ 1 := by
  rw [length_le_iff zero_le_one] at short shortToo
  have difference := (left - right).dot_self_nonneg
  have expanded : (left - right).dot (left - right) =
      left.dot left + right.dot right - 2 * left.dot right := by
    simp only [dot_eq, sub_x, sub_y, sub_z]
    ring
  linarith

end Vector3

namespace Scene

variable [Elementary] {scene : Scene ℝ} {ray : Ray ℝ} {hit : Hit ℝ}

/-- The light on a point is none at least and full at most. -/
theorem diffuse_bounds (scene : Scene ℝ) (point : Vector3 ℝ) {normal : Vector3 ℝ}
    (short : normal.length ≤ 1) :
    0 ≤ scene.diffuse point normal ∧ scene.diffuse point normal ≤ 1 := by
  by_cases free : scene.nearest (scene.shadowRay point) = none
  · rw [diffuse_of_none free]
    have cosine := Vector3.dot_le_one short (Vector3.length_normalize_le (scene.light - point))
    exact ⟨le_max_left _ _, max_le zero_le_one cosine⟩
  · rw [diffuse_of_ne_none free]
    exact ⟨le_rfl, zero_le_one⟩

/-- What a ray brings back from a sphere is the colour of the sphere, in a light
between the ambience and the ambience with full light. -/
theorem channel_shade (isNearest : scene.nearest ray = some hit)
    (inRange : hit.sphere.colour.InRange) :
    ∃ light, 0 ≤ light ∧ light ≤ 1 ∧ ∀ channel,
      (scene.shade ray).channel channel =
        min 1 ((0.2 + light) * hit.sphere.colour.channel channel) := by
  obtain ⟨dark, bright⟩ := diffuse_bounds scene (hit.point ray)
    (Vector3.length_normalize_le (hit.point ray - hit.sphere.center))
  refine ⟨_, dark, bright, fun channel => ?_⟩
  obtain ⟨own, -⟩ := inRange channel
  rw [shade_eq isNearest, Colour.channel_clamp_scale, mul_comm]
  have shown : 0 ≤ (0.2 + scene.diffuse (hit.point ray) (hit.normal ray)) *
      hit.sphere.colour.channel channel :=
    mul_nonneg (add_nonneg (by norm_num) dark) own
  exact max_eq_right (le_min zero_le_one shown)

theorem shade_of_silent (silent : ∀ sphere ∈ scene.spheres, sphere.intersect ray = none) :
    scene.shade ray = background := by
  rw [shade, nearest_eq_none_iff.mpr silent]

/-- Spheres whose colours can be shown make colours that can be shown. -/
theorem inRange_shade (colours : ∀ sphere ∈ scene.spheres, sphere.colour.InRange) (ray : Ray ℝ) :
    (scene.shade ray).InRange := by
  by_cases silent : ∀ sphere ∈ scene.spheres, sphere.intersect ray = none
  · rw [shade_of_silent silent]
    exact Colour.inRange_background
  · obtain ⟨hit, isNearest⟩ := Option.ne_none_iff_exists'.mp (mt nearest_eq_none_iff.mp silent)
    have inRange := colours _ (nearest_spec isNearest).1
    obtain ⟨light, dark, -, shown⟩ := channel_shade isNearest inRange
    intro channel
    rw [shown]
    have lit : 0 ≤ (0.2 + light) * hit.sphere.colour.channel channel :=
      mul_nonneg (add_nonneg (by norm_num) dark) (inRange channel).1
    exact ⟨le_min zero_le_one lit, min_le_left _ _⟩

end Scene

/-! ### Images -/

theorem checksum_bounds [Elementary] {pixels : List (Colour ℝ)}
    (shown : ∀ pixel ∈ pixels, pixel.InRange) :
    0 ≤ checksum pixels ∧ checksum pixels ≤ 3 * pixels.length := by
  have totals : ∀ total ∈ pixels.map Colour.total, 0 ≤ total ∧ total ≤ 3 := by
    intro total member
    obtain ⟨pixel, isPixel, rfl⟩ := List.mem_map.mp member
    exact (shown pixel isPixel).total_bounds
  have most := List.sum_le_card_nsmul _ 3 fun total member => (totals total member).2
  rw [List.length_map, nsmul_eq_mul, mul_comm] at most
  rw [checksum, Scalar.sum_eq_sum]
  exact ⟨List.sum_nonneg fun total member => (totals total member).1, most⟩

/-- Shading stays between the ambience and full light, if the colours of the spheres
can be shown. A ray that no sphere answers brings back the background. Any other
brings back the colour of the nearest sphere in a light that is the same for all
channels, and is cut off at one; it is at least the ambience, and at most the ambience
with full light. So the pixels of an image can be shown, and its checksum is at most
three for each of them. Nothing is asked of the ray or of the place of the light: in
exact arithmetic a vector is normalized to one of length one, or to zero. -/
theorem shade_between_ambience_and_full
    [Elementary]
    (scene : Scene ℝ)
    (colours : ∀ sphere ∈ scene.spheres, sphere.colour.InRange) :
    (∀ ray, (∀ sphere ∈ scene.spheres, sphere.intersect ray = none) →
      scene.shade ray = background) ∧
    (∀ ray, (∃ sphere ∈ scene.spheres, sphere.intersect ray ≠ none) →
      ∃ hit, scene.nearest ray = some hit ∧ hit.sphere ∈ scene.spheres ∧
        hit.sphere.intersect ray = some hit.distance ∧
        (∀ sphere ∈ scene.spheres, ∀ distance, sphere.intersect ray = some distance →
          hit.distance ≤ distance) ∧
        ∃ light, 0 ≤ light ∧ light ≤ 1 ∧ ∀ channel,
          let own := hit.sphere.colour.channel channel
          let shown := (scene.shade ray).channel channel
          shown = min 1 ((0.2 + light) * own) ∧ 0.2 * own ≤ shown ∧ shown ≤ min 1 (1.2 * own)) ∧
    ∀ width height : Nat,
      (∀ pixel ∈ scene.render width height, pixel.InRange) ∧
      0 ≤ checksum (scene.render width height) ∧
      checksum (scene.render width height) ≤ 3 * width * height := by
  refine ⟨fun ray silent => Scene.shade_of_silent silent, fun ray answered => ?_,
    fun width height => ?_⟩
  · obtain ⟨sphere, member, answers⟩ := answered
    have notSilent : scene.nearest ray ≠ none :=
      fun none => answers (Scene.nearest_eq_none_iff.mp none sphere member)
    obtain ⟨hit, isNearest⟩ := Option.ne_none_iff_exists'.mp notSilent
    obtain ⟨ofScene, found, least⟩ := Scene.nearest_spec isNearest
    have inRange := colours _ ofScene
    obtain ⟨light, dark, bright, shown_eq⟩ := Scene.channel_shade isNearest inRange
    refine ⟨hit, isNearest, ofScene, found, least, light, dark, bright, fun channel => ?_⟩
    intro own shown
    have isShown : shown = min 1 ((0.2 + light) * own) := shown_eq channel
    obtain ⟨ownDark, ownBright⟩ : 0 ≤ own ∧ own ≤ 1 := inRange channel
    rw [isShown]
    refine ⟨rfl, le_min ?_ ?_, min_le_min_left 1 ?_⟩
    · linarith
    · exact mul_le_mul_of_nonneg_right (by linarith) ownDark
    · exact mul_le_mul_of_nonneg_right (by linarith) ownDark
  · have shown : ∀ pixel ∈ scene.render width height, pixel.InRange := by
      intro pixel member
      obtain ⟨ray, rfl⟩ := Scene.exists_shade_of_mem_render member
      exact Scene.inRange_shade colours ray
    obtain ⟨least, most⟩ := checksum_bounds shown
    rw [Scene.length_render, Nat.cast_mul, ← mul_assoc] at most
    exact ⟨shown, least, most⟩

/-- The image of the bundled workload. -/
theorem standard_image_in_range :
    letI := Elementary.analysis
    let scene : Scene ℝ := .standard
    (∀ sphere ∈ scene.spheres, sphere.colour.InRange) ∧
      (∀ pixel ∈ scene.render 64 64, pixel.InRange) ∧
        checksum (scene.render 64 64) ≤ 12288 := by
  let := Elementary.analysis
  intro scene
  have colours : ∀ sphere ∈ scene.spheres, sphere.colour.InRange := by
    simp only [scene, Scene.standard, List.forall_mem_cons]
    refine ⟨?_, ?_, nofun⟩
    · rintro (_ | _ | _) <;> norm_num [Colour.channel]
    · rintro (_ | _ | _) <;> norm_num [Colour.channel]
  obtain ⟨-, -, images⟩ := shade_between_ambience_and_full scene colours
  obtain ⟨shown, -, most⟩ := images 64 64
  refine ⟨colours, shown, most.trans ?_⟩
  norm_num

end Throughput.RayTracing
