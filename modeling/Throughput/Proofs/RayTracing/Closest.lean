import Throughput.Proofs.Decimal.Comparison
import Throughput.Proofs.RayTracing.Nearest

/-!
Contract: which sphere a ray meets, in rounded arithmetic.

Owns:
- double precision as a case of `Ranked`: distances that count are compared as
  their words are;
- the theorem about the first of the closest spheres, over all lists of spheres
  and all rays, be their coordinates numbers or not.

A double that exceeds the least distance is positive, and the positive doubles
stand in the order of their words, with infinity at the end. So their order as
numbers is the order of their bits too, and no two of them are equal.
-/

namespace Throughput.RayTracing

open Decimal

theorem positive_of_leastDistance_lt {distance : Float} (counts : leastDistance < distance) :
    Positive distance.toModel.unpack := by
  have least : Positive (leastDistance : Float).toModel.unpack := rfl
  exact least.of_compare (lt_iff_compare.mp counts)

instance : Ranked Float where
  Rank := ℕ
  order := inferInstance
  rank := fun distance => distance.toBits.toNat
  rank_injective := fun _ _ same => Float.toBits_inj.mp (UInt64.toNat_inj.mp same)
  lt_iff := fun left right =>
    lt_iff_toBits_lt (positive_of_leastDistance_lt left) (positive_of_leastDistance_lt right)
  le_iff := fun left right =>
    le_iff_toBits_le (positive_of_leastDistance_lt left) (positive_of_leastDistance_lt right)

/-- A ray meets the first of the closest spheres, in double precision and whatever
the coordinates are. It meets nothing if and only if no sphere answers it. Otherwise
it meets the one sphere that answers, than which none answers less, and before which
none answers as little. So the distance, and whether there is one, is the same for
every order of the spheres. And a sphere that is put in anywhere turns no hit into a
miss and makes no distance greater: the distance stays what it was, or it becomes the
answer of the new sphere, which is less or was the only one. -/
theorem nearest_finds_first_closest
    (scene : Scene Float)
    (ray : Ray Float) :
    (scene.nearest ray = none ↔ ∀ sphere ∈ scene.spheres, sphere.intersect ray = none) ∧
    (∀ hit, scene.nearest ray = some hit ↔ scene.IsFirstNearest ray hit) ∧
    (∀ other : Scene Float, other.spheres.Perm scene.spheres →
      (other.nearest ray).map Hit.distance = (scene.nearest ray).map Hit.distance) ∧
    ∀ before sphere after, scene.spheres = before ++ after →
      let wider : Scene Float := { scene with spheres := before ++ sphere :: after }
      (scene.nearest ray = none → (wider.nearest ray).map Hit.distance = sphere.intersect ray) ∧
      ∀ hit, scene.nearest ray = some hit → ∃ nearer, wider.nearest ray = some nearer ∧
        (nearer.distance = hit.distance ∨
          nearer.distance < hit.distance ∧ sphere.intersect ray = some nearer.distance) := by
  refine ⟨Scene.nearest_eq_none_iff, fun _ => Scene.nearest_eq_some_iff, fun other rearranged => ?_,
    fun before sphere after parts => ?_⟩
  · exact Scene.distance_nearest_congr fun _ => rearranged.mem_iff
  · intro wider
    have more : ∀ other, other ∈ wider.spheres ↔ other = sphere ∨ other ∈ scene.spheres := by
      intro other
      rw [parts, List.mem_append, List.mem_append, List.mem_cons, or_left_comm]
    exact ⟨Scene.distance_nearest_of_silent more, fun _ => Scene.exists_nearest_of_some more⟩

/-- Two spheres are entered at the same distance, behind a farther one in the scene.
The first of the two is met, and in the opposite order the ray comes as far. -/
theorem first_of_two_is_met :
    let far : Sphere Float := ⟨⟨0.0, 0.0, 9.0⟩, 1.0, ⟨1.0, 1.0, 1.0⟩⟩
    let red : Sphere Float := ⟨⟨0.0, 0.0, 5.0⟩, 1.0, ⟨1.0, 0.0, 0.0⟩⟩
    let green : Sphere Float := ⟨⟨0.0, 0.0, 5.0⟩, 1.0, ⟨0.0, 1.0, 0.0⟩⟩
    let scene : Scene Float := { Scene.standard with spheres := [far, red, green] }
    let opposite : Scene Float := { scene with spheres := [green, red, far] }
    let ray : Ray Float := ⟨⟨0.0, 0.0, 0.0⟩, ⟨0.0, 0.0, 1.0⟩⟩
    scene.nearest ray = some ⟨4.0, red, 1⟩ ∧
      opposite.spheres.Perm scene.spheres ∧
        (opposite.nearest ray).map Hit.distance = some 4.0 := by
  intro far red green scene opposite ray
  have isFar : far.intersect ray = some 8.0 := by decide +kernel
  have isRed : red.intersect ray = some 4.0 := by decide +kernel
  have isGreen : green.intersect ray = some 4.0 := by decide +kernel
  have equallyFar : (4.0 : Float) ≤ 4.0 := by decide +kernel
  have nearer : (4.0 : Float) < 8.0 ∧ (4.0 : Float) ≤ 8.0 := by decide +kernel
  have isFirst : scene.IsFirstNearest ray ⟨4.0, red, 1⟩ := by
    refine ⟨rfl, isRed, ?_, ?_⟩
    · simp only [scene, List.forall_mem_cons, isFar, isRed, isGreen, Option.some_inj]
      exact ⟨fun _ same => same ▸ nearer.2, fun _ same => same ▸ equallyFar,
        fun _ same => same ▸ equallyFar, nofun⟩
    · intro index before sphere placed distance answered
      obtain rfl : index = 0 := Nat.lt_one_iff.mp before
      obtain rfl : far = sphere := Option.some_inj.mp placed
      obtain rfl := Option.some_inj.mp (isFar.symm.trans answered)
      exact nearer.1
  have rearranged : opposite.spheres.Perm scene.spheres := List.reverse_perm [far, red, green]
  obtain ⟨-, found, distances, -⟩ := nearest_finds_first_closest scene ray
  have isNearest := (found _).mpr isFirst
  refine ⟨isNearest, rearranged, ?_⟩
  rw [distances opposite rearranged, isNearest]
  rfl

end Throughput.RayTracing
