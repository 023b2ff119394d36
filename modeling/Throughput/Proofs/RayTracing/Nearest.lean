import Mathlib.Data.List.MinMax
import Throughput.Proofs.Exact
import Throughput.RayTracing.Scene

/-!
Contract: the nearest of the spheres that a ray meets.

Owns:
- `Ranked`, the scalars whose values beyond the least distance stand in a linear
  order, and exact arithmetic as a case of it;
- the hits of a ray, as the spheres of a scene with what they answer, in the
  order of the scene;
- `Scene.IsFirstNearest`, and the statement that `Scene.nearest` finds this hit
  and no other;
- the distance of the nearest hit by the answers of the spheres alone, and what
  one more sphere does to it.

Not all doubles can be compared, so the smaller of two is not always one of
them. An answer of a sphere exceeds the least distance, and no more is needed:
the choice among the hits is `List.argmin` by the ranks of their distances.
-/

namespace Throughput.RayTracing

variable {α : Type} [Scalar α]

/-! ### Distances -/

/-- Scalars that are compared as their ranks are, once they exceed the least
distance. -/
class Ranked (α : Type) [Scalar α] where
  Rank : Type
  order : LinearOrder Rank
  rank : α → Rank
  rank_injective : ∀ {left right : α}, leastDistance < left → leastDistance < right →
    rank left = rank right → left = right
  lt_iff : ∀ {left right : α}, leastDistance < left → leastDistance < right →
    (left < right ↔ rank left < rank right)
  le_iff : ∀ {left right : α}, leastDistance < left → leastDistance < right →
    (left ≤ right ↔ rank left ≤ rank right)

instance [Ranked α] : LinearOrder (Ranked.Rank α) :=
  Ranked.order

/-- A real number is its own rank. -/
noncomputable instance [Elementary] : Ranked ℝ where
  Rank := ℝ
  order := inferInstance
  rank := id
  rank_injective := fun _ _ same => same
  lt_iff := fun _ _ => Iff.rfl
  le_iff := fun _ _ => Iff.rfl

namespace Ranked

variable [Ranked α] {left right : α}

theorem le_self (counts : leastDistance < left) : left ≤ left :=
  (le_iff counts counts).mpr le_rfl

theorem eq_of_le_of_le (leftCounts : leastDistance < left) (rightCounts : leastDistance < right)
    (notFarther : left ≤ right) (notNearer : right ≤ left) : left = right :=
  rank_injective leftCounts rightCounts <|
    le_antisymm ((le_iff leftCounts rightCounts).mp notFarther)
      ((le_iff rightCounts leftCounts).mp notNearer)

theorem eq_or_lt_of_le (leftCounts : leastDistance < left) (rightCounts : leastDistance < right)
    (notFarther : left ≤ right) : left = right ∨ left < right := by
  rw [lt_iff leftCounts rightCounts]
  exact ((le_iff leftCounts rightCounts).mp notFarther).eq_or_lt.imp_left
    (rank_injective leftCounts rightCounts)

end Ranked

variable {scene : Scene α} {ray : Ray α} {hit : Hit α} {sphere : Sphere α} {distance : α}

theorem Sphere.leastDistance_lt (answered : sphere.intersect ray = some distance) :
    leastDistance < distance := by
  unfold intersect at answered
  dsimp only at answered
  split at answered
  · cases answered
  · split at answered
    · next far =>
      cases answered
      exact far
    · cases answered

/-! ### Hits -/

namespace Scene

theorem mem_hits_iff :
    hit ∈ scene.hits ray ↔
      scene.spheres[hit.index]? = some hit.sphere ∧
        hit.sphere.intersect ray = some hit.distance := by
  simp only [hits, List.mem_filterMap, Prod.exists, List.mk_mem_zipIdx_iff_getElem?,
    Option.map_eq_some_iff]
  constructor
  · rintro ⟨sphere, index, placed, distance, answered, rfl⟩
    exact ⟨placed, answered⟩
  · rintro ⟨placed, answered⟩
    exact ⟨_, _, placed, _, answered, rfl⟩

theorem leastDistance_lt_of_mem_hits (isHit : hit ∈ scene.hits ray) :
    leastDistance < hit.distance :=
  Sphere.leastDistance_lt (mem_hits_iff.mp isHit).2

/-- The hits stand in the order of the scene. -/
theorem pairwise_index_hits (scene : Scene α) (ray : Ray α) :
    (scene.hits ray).Pairwise fun left right => left.index < right.index := by
  have places : scene.spheres.zipIdx.Pairwise fun left right => left.2 < right.2 := by
    refine List.Pairwise.of_map Prod.snd (fun _ _ => id) ?_
    rw [List.zipIdx_map_snd]
    exact List.pairwise_lt_range'
  refine places.filterMap _ ?_
  rintro ⟨sphere, index⟩ ⟨later, laterIndex⟩ before hit answered laterHit laterAnswered
  obtain ⟨_, -, rfl⟩ := Option.map_eq_some_iff.mp answered
  obtain ⟨_, -, rfl⟩ := Option.map_eq_some_iff.mp laterAnswered
  exact before

theorem idxOf_hits_lt_iff [DecidableEq (Hit α)] {left right : Hit α}
    (isLeft : left ∈ scene.hits ray) (isRight : right ∈ scene.hits ray) :
    (scene.hits ray).idxOf left < (scene.hits ray).idxOf right ↔ left.index < right.index := by
  have ordered : ∀ {first second : Hit α}, first ∈ scene.hits ray → second ∈ scene.hits ray →
      (scene.hits ray).idxOf first < (scene.hits ray).idxOf second →
        first.index < second.index := by
    intro first second isFirst isSecond before
    have indices := List.pairwise_iff_getElem.mp (scene.pairwise_index_hits ray) _ _
      (List.idxOf_lt_length_of_mem isFirst) (List.idxOf_lt_length_of_mem isSecond) before
    rwa [List.getElem_idxOf, List.getElem_idxOf] at indices
  -- Different hits have different places, so the order goes over both ways.
  refine ⟨ordered isLeft isRight, fun before => ?_⟩
  rcases lt_trichotomy ((scene.hits ray).idxOf left) ((scene.hits ray).idxOf right) with
    less | same | greater
  · exact less
  · rw [(List.idxOf_inj isLeft).mp same] at before
    exact absurd before (lt_irrefl _)
  · exact absurd (ordered isRight isLeft greater) before.asymm

/-- The hit that a ray brings back: no sphere answers less, and none that comes
earlier in the scene answers as little. -/
structure IsFirstNearest (scene : Scene α) (ray : Ray α) (hit : Hit α) : Prop where
  placed : scene.spheres[hit.index]? = some hit.sphere
  answered : hit.sphere.intersect ray = some hit.distance
  least : ∀ sphere ∈ scene.spheres, ∀ distance, sphere.intersect ray = some distance →
    hit.distance ≤ distance
  first : ∀ index < hit.index, ∀ sphere, scene.spheres[index]? = some sphere →
    ∀ distance, sphere.intersect ray = some distance → hit.distance < distance

theorem isFirstNearest_iff :
    scene.IsFirstNearest ray hit ↔
      hit ∈ scene.hits ray ∧ ∀ other ∈ scene.hits ray,
        hit.distance ≤ other.distance ∧
          (other.index < hit.index → hit.distance < other.distance) := by
  constructor
  · intro nearest
    refine ⟨mem_hits_iff.mpr ⟨nearest.placed, nearest.answered⟩, fun other isOther => ?_⟩
    obtain ⟨placed, answered⟩ := mem_hits_iff.mp isOther
    exact ⟨nearest.least _ (List.mem_of_getElem? placed) _ answered,
      fun before => nearest.first _ before _ placed _ answered⟩
  · rintro ⟨isHit, nearest⟩
    obtain ⟨placed, answered⟩ := mem_hits_iff.mp isHit
    refine ⟨placed, answered, fun sphere member distance found => ?_,
      fun index before sphere placedThere distance found => ?_⟩
    · obtain ⟨index, placedThere⟩ := List.mem_iff_getElem?.mp member
      exact (nearest ⟨distance, sphere, index⟩ (mem_hits_iff.mpr ⟨placedThere, found⟩)).1
    · exact (nearest ⟨distance, sphere, index⟩ (mem_hits_iff.mpr ⟨placedThere, found⟩)).2 before

end Scene

/-! ### The choice among hits -/

theorem Hit.nearer_eq_or (start : Option (Hit α)) (hit : Hit α) :
    Hit.nearer start hit = some hit ∨ Hit.nearer start hit = start := by
  cases start with
  | none => exact .inl rfl
  | some first => exact ite_eq_or_eq ..

variable [Ranked α]

/-- Hits whose distances count are compared by the ranks of these. -/
theorem Hit.foldl_nearer_eq {hits : List (Hit α)} {start : Option (Hit α)}
    (counts : ∀ hit ∈ hits, leastDistance < hit.distance)
    (startCounts : ∀ first, start = some first → leastDistance < first.distance) :
    hits.foldl Hit.nearer start =
      hits.foldl (List.argAux fun left right =>
        Ranked.rank left.distance < Ranked.rank right.distance) start := by
  induction hits generalizing start with
  | nil => rfl
  | cons hit hits inductionHypothesis =>
    obtain ⟨hitCounts, restCount⟩ := List.forall_mem_cons.mp counts
    have chosen : Hit.nearer start hit = List.argAux (fun left right =>
        Ranked.rank left.distance < Ranked.rank right.distance) start hit := by
      cases start with
      | none => rfl
      | some first => exact if_congr (Ranked.lt_iff hitCounts (startCounts first rfl)) rfl rfl
    rw [List.foldl_cons, List.foldl_cons, ← chosen]
    -- Whichever of the two is kept, its distance counts for the rest of the list.
    refine inductionHypothesis restCount fun first isFirst => ?_
    rcases Hit.nearer_eq_or start hit with isHit | isStart
    · obtain rfl := Option.some_inj.mp (isHit.symm.trans isFirst)
      exact hitCounts
    · exact startCounts first (isStart.symm.trans isFirst)

namespace Scene

theorem nearest_eq_argmin (scene : Scene α) (ray : Ray α) :
    scene.nearest ray = (scene.hits ray).argmin fun hit => Ranked.rank hit.distance :=
  Hit.foldl_nearer_eq (fun _ isHit => leastDistance_lt_of_mem_hits isHit) nofun

/-- A ray meets nothing exactly if no sphere answers it. -/
theorem nearest_eq_none_iff :
    scene.nearest ray = none ↔ ∀ sphere ∈ scene.spheres, sphere.intersect ray = none := by
  rw [nearest_eq_argmin, List.argmin_eq_none, List.eq_nil_iff_forall_not_mem]
  constructor
  · intro none sphere member
    obtain ⟨index, placed⟩ := List.mem_iff_getElem?.mp member
    refine Option.eq_none_iff_forall_ne_some.mpr fun distance answered => ?_
    exact none ⟨distance, sphere, index⟩ (mem_hits_iff.mpr ⟨placed, answered⟩)
  · intro silent hit isHit
    obtain ⟨placed, answered⟩ := mem_hits_iff.mp isHit
    exact Option.some_ne_none _ (answered.symm.trans (silent _ (List.mem_of_getElem? placed)))

/-- What a ray meets is the first of the nearest hits. -/
theorem nearest_eq_some_iff : scene.nearest ray = some hit ↔ scene.IsFirstNearest ray hit := by
  classical
  rw [nearest_eq_argmin, List.argmin_eq_some_iff, isFirstNearest_iff]
  refine and_congr_right fun isHit => ?_
  rw [← forall₂_and]
  refine forall₂_congr fun other isOther => ?_
  -- Among equally near hits `argmin` goes by the place in the list, `first` by the
  -- place in the scene.
  have counts := leastDistance_lt_of_mem_hits isHit
  have otherCounts := leastDistance_lt_of_mem_hits isOther
  rw [Ranked.le_iff counts otherCounts, Ranked.lt_iff counts otherCounts,
    ← idxOf_hits_lt_iff isOther isHit, ← not_imp_not, not_le, not_le]

/-- What a ray meets is a sphere that answers it, and none answers less. -/
theorem nearest_spec (isNearest : scene.nearest ray = some hit) :
    hit.sphere ∈ scene.spheres ∧ hit.sphere.intersect ray = some hit.distance ∧
      ∀ sphere ∈ scene.spheres, ∀ distance, sphere.intersect ray = some distance →
        hit.distance ≤ distance := by
  obtain ⟨placed, answered, least, -⟩ := nearest_eq_some_iff.mp isNearest
  exact ⟨List.mem_of_getElem? placed, answered, least⟩

theorem exists_nearest (member : sphere ∈ scene.spheres)
    (answered : sphere.intersect ray = some distance) : ∃ hit, scene.nearest ray = some hit :=
  Option.ne_none_iff_exists'.mp fun none =>
    Option.some_ne_none _ (answered.symm.trans (nearest_eq_none_iff.mp none sphere member))

/-! ### The distance alone -/

/-- How far a ray comes is the least of the answers, wherever their spheres stand. -/
theorem distance_nearest_iff :
    (scene.nearest ray).map Hit.distance = some distance ↔
      (∃ sphere ∈ scene.spheres, sphere.intersect ray = some distance) ∧
        ∀ sphere ∈ scene.spheres, ∀ other, sphere.intersect ray = some other →
          distance ≤ other := by
  rw [Option.map_eq_some_iff]
  constructor
  · rintro ⟨hit, isNearest, rfl⟩
    obtain ⟨member, answered, least⟩ := nearest_spec isNearest
    exact ⟨⟨_, member, answered⟩, least⟩
  · rintro ⟨⟨sphere, member, answered⟩, least⟩
    obtain ⟨hit, isNearest⟩ := exists_nearest member answered
    obtain ⟨hitMember, hitAnswered, hitLeast⟩ := nearest_spec isNearest
    exact ⟨hit, isNearest, Ranked.eq_of_le_of_le (Sphere.leastDistance_lt hitAnswered)
      (Sphere.leastDistance_lt answered) (hitLeast _ member _ answered)
      (least _ hitMember _ hitAnswered)⟩

theorem distance_nearest_congr {other : Scene α}
    (same : ∀ sphere, sphere ∈ other.spheres ↔ sphere ∈ scene.spheres) :
    (other.nearest ray).map Hit.distance = (scene.nearest ray).map Hit.distance := by
  refine Option.ext fun distance => ?_
  simp only [distance_nearest_iff, same]

section OneMore

variable {wider : Scene α}
  (more : ∀ other, other ∈ wider.spheres ↔ other = sphere ∨ other ∈ scene.spheres)

include more

/-- Where a ray met nothing, it comes as far as one more sphere answers. -/
theorem distance_nearest_of_silent (silent : scene.nearest ray = none) :
    (wider.nearest ray).map Hit.distance = sphere.intersect ray := by
  have none := nearest_eq_none_iff.mp silent
  cases answered : sphere.intersect ray with
  | none =>
    rw [Option.map_eq_none_iff, nearest_eq_none_iff]
    intro other member
    rcases (more other).mp member with rfl | before
    · exact answered
    · exact none other before
  | some distance =>
    refine distance_nearest_iff.mpr ⟨⟨sphere, (more sphere).mpr (.inl rfl), answered⟩, ?_⟩
    intro other member otherDistance found
    rcases (more other).mp member with rfl | before
    · obtain rfl := Option.some_inj.mp (answered.symm.trans found)
      exact Ranked.le_self (Sphere.leastDistance_lt answered)
    · exact absurd found (none other before ▸ nofun)

/-- Where a ray met a sphere, one more makes it come as far as before, or less far
and to itself. -/
theorem exists_nearest_of_some (isNearest : scene.nearest ray = some hit) :
    ∃ nearer, wider.nearest ray = some nearer ∧
      (nearer.distance = hit.distance ∨
        nearer.distance < hit.distance ∧ sphere.intersect ray = some nearer.distance) := by
  obtain ⟨member, answered, least⟩ := nearest_spec isNearest
  have stays : hit.sphere ∈ wider.spheres := (more _).mpr (.inr member)
  obtain ⟨nearer, isNearer⟩ := exists_nearest stays answered
  obtain ⟨nearerMember, nearerAnswered, nearerLeast⟩ := nearest_spec isNearer
  have counts := Sphere.leastDistance_lt answered
  have nearerCounts := Sphere.leastDistance_lt nearerAnswered
  have notFarther : nearer.distance ≤ hit.distance := nearerLeast _ stays _ answered
  refine ⟨nearer, isNearer, ?_⟩
  rcases (more _).mp nearerMember with isNew | before
  · rw [← isNew]
    exact (Ranked.eq_or_lt_of_le nearerCounts counts notFarther).imp_right
      fun less => ⟨less, nearerAnswered⟩
  · exact .inl (Ranked.eq_of_le_of_le nearerCounts counts notFarther
      (least _ before _ nearerAnswered))

end OneMore

end Scene

end Throughput.RayTracing
