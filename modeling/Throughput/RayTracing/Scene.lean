import Throughput.RayTracing.Vector

/-!
Contract: a scene of spheres under one light, and the image of it.

Owns:
- `Ray`, `Sphere` and `Sphere.intersect`, the distance at which a ray enters a
  sphere;
- `Camera` and the ray through a point of its screen;
- `Scene.nearest`, the first sphere that a ray meets, `Scene.shade`, the
  colour that it brings back, and `Scene.render`, the image row by row.

A direction is taken to be a unit vector wherever a ray is used.
-/

namespace Throughput.RayTracing

variable {α : Type} [Scalar α]

structure Ray (α : Type) where
  origin : Vector3 α
  direction : Vector3 α

@[inline]
def Ray.pointAt (ray : Ray α) (distance : α) : Vector3 α :=
  ray.origin + ray.direction * distance

/-- A ball with one colour all over. -/
structure Sphere (α : Type) where
  center : Vector3 α
  radius : α
  colour : Colour α

/-- The distance below which an entry does not count: it keeps a ray that
starts on a sphere from meeting that sphere again. -/
def leastDistance : α := 0.000001

/-- The distance at which a ray enters a sphere in front of its origin. -/
@[specialize]
def Sphere.intersect (sphere : Sphere α) (ray : Ray α) : Option α :=
  let offset := ray.origin - sphere.center
  let halfSlope := offset.dot ray.direction
  let excess := offset.dot offset - sphere.radius * sphere.radius
  let discriminant := halfSlope * halfSlope - excess
  if discriminant ≤ 0.0 then none
  else
    let distance := -halfSlope - Scalar.sqrt discriminant
    if leastDistance < distance then some distance else none

/-- A camera, by its place and the frame of its screen. -/
structure Camera (α : Type) where
  position : Vector3 α
  up : Vector3 α
  equator : Vector3 α
  screen : Vector3 α

namespace Camera

/-- The camera at a place, with the direction of its view and the upward
direction. -/
@[specialize]
def facing (position lookAt up : Vector3 α) : Camera α where
  position
  up
  equator := lookAt.normalize.cross up
  screen := position + lookAt

/-- The ray through a point of the screen, whose coordinates run from -1 to 1,
the second one downwards. -/
@[specialize]
def ray (camera : Camera α) (across down : α) : Ray α :=
  let point := camera.screen - (camera.equator * across - camera.up * down)
  let origin : Vector3 α := ⟨point.x, -point.y, point.z⟩
  ⟨origin, (origin - camera.position).normalize⟩

end Camera

/-- Spheres under one light, seen by one camera. -/
structure Scene (α : Type) where
  camera : Camera α
  spheres : List (Sphere α)
  light : Vector3 α

/-- The colour of rays that meet nothing. -/
def background : Colour α := ⟨0.0, 0.0, 0.5⟩

/-- The part of a sphere's colour that shows without any light. -/
def ambience : α := 0.2

/-- Where a ray meets a sphere: how far away, and which one it is. -/
structure Hit (α : Type) where
  distance : α
  sphere : Sphere α
  index : Nat

/-- The nearer of two hits; of two equally near ones the first stays. -/
@[inline]
def Hit.nearer (best : Option (Hit α)) (hit : Hit α) : Option (Hit α) :=
  match best with
  | none => some hit
  | some first => if hit.distance < first.distance then some hit else some first

namespace Scene

/-- The scene of the bundled kernel: two spheres. -/
def standard : Scene α where
  camera := .facing ⟨0.0, 0.0, -15.0⟩ ⟨-0.2, 0.0, 5.0⟩ ⟨0.0, 1.0, 0.0⟩
  spheres :=
    [⟨⟨-1.5, 1.5, 2.0⟩, 1.5, ⟨0.0, 0.5, 0.5⟩⟩,
      ⟨⟨1.0, 0.25, 1.0⟩, 0.5, ⟨0.9, 0.9, 0.9⟩⟩]
  light := ⟨5.0, 10.0, -1.0⟩

/-- The spheres that a ray meets, in the order of the scene. -/
@[specialize]
def hits (scene : Scene α) (ray : Ray α) : List (Hit α) :=
  scene.spheres.zipIdx.filterMap fun (sphere, index) =>
    (sphere.intersect ray).map fun distance => ⟨distance, sphere, index⟩

/-- The first sphere that a ray meets. -/
@[specialize]
def nearest (scene : Scene α) (ray : Ray α) : Option (Hit α) :=
  (scene.hits ray).foldl Hit.nearer none

/-- How much light falls on a point with this normal: nothing from behind, and
nothing if a sphere stands anywhere on the way to the light or beyond it. -/
@[specialize]
def diffuse (scene : Scene α) (point normal : Vector3 α) : α :=
  let towardLight := (scene.light - point).normalize
  match scene.nearest ⟨point, towardLight⟩ with
  | none => Scalar.larger (normal.dot towardLight) 0.0
  | some _ => 0.0

/-- The colour that a ray brings back. -/
@[specialize]
def shade (scene : Scene α) (ray : Ray α) : Colour α :=
  match scene.nearest ray with
  | none => background
  | some hit =>
    let point := ray.pointAt hit.distance
    let normal := (point - hit.sphere.center).normalize
    (hit.sphere.colour.scale ambience +
      hit.sphere.colour.scale (scene.diffuse point normal)).clamp

/-- The coordinate on the screen of the pixel with an index, of so many pixels
side by side: the first has -1, the last 1. -/
@[specialize]
def screenCoordinate (index count : Nat) : α :=
  2.0 * Scalar.ofNat index / Scalar.ofNat (count - 1) - 1.0

@[specialize]
def renderRow (scene : Scene α) (width : Nat) (down : α) : List (Colour α) :=
  (List.range width).map fun column =>
    scene.shade (scene.camera.ray (screenCoordinate column width) down)

/-- The image, row by row from the top. -/
@[specialize]
def render (scene : Scene α) (width height : Nat) : List (Colour α) :=
  (List.range height).flatMap fun row =>
    scene.renderRow width (screenCoordinate row height)

end Scene

/-- The sum over an image, by which two renderings are compared. -/
@[specialize]
def checksum (pixels : List (Colour α)) : α :=
  Scalar.sum (pixels.map Colour.total)

end Throughput.RayTracing
