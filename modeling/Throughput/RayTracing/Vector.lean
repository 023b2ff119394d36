import Throughput.Scalar

/-!
Contract: vectors of three coordinates and colours of three channels.

Owns:
- `Vector3` with its sums, multiples, products and length;
- `Colour` with its sums and multiples, and `Colour.clamp`, which brings every
  channel between dark and bright.

Everything is written over `Scalar`, with the products of coordinates summed
from left to right.
-/

namespace Throughput.RayTracing

variable {α : Type} [Scalar α]

structure Vector3 (α : Type) where
  x : α
  y : α
  z : α

namespace Vector3

@[inline]
def add (left right : Vector3 α) : Vector3 α :=
  ⟨left.x + right.x, left.y + right.y, left.z + right.z⟩

@[inline]
def sub (left right : Vector3 α) : Vector3 α :=
  ⟨left.x - right.x, left.y - right.y, left.z - right.z⟩

@[inline]
def scale (vector : Vector3 α) (factor : α) : Vector3 α :=
  ⟨vector.x * factor, vector.y * factor, vector.z * factor⟩

instance : Add (Vector3 α) := ⟨add⟩

instance : Sub (Vector3 α) := ⟨sub⟩

instance : HMul (Vector3 α) α (Vector3 α) := ⟨scale⟩

@[inline]
def dot (left right : Vector3 α) : α :=
  left.x * right.x + left.y * right.y + left.z * right.z

@[inline]
def cross (left right : Vector3 α) : Vector3 α :=
  ⟨left.y * right.z - left.z * right.y,
    left.z * right.x - left.x * right.z,
    left.x * right.y - left.y * right.x⟩

@[inline]
def length (vector : Vector3 α) : α :=
  Scalar.sqrt (vector.dot vector)

@[inline]
def normalize (vector : Vector3 α) : Vector3 α :=
  vector * (1.0 / vector.length)

end Vector3

/-- A colour; its channels lie between 0 and 1 once it is clamped. -/
structure Colour (α : Type) where
  red : α
  green : α
  blue : α

namespace Colour

@[inline]
def add (left right : Colour α) : Colour α :=
  ⟨left.red + right.red, left.green + right.green, left.blue + right.blue⟩

instance : Add (Colour α) := ⟨add⟩

@[inline]
def scale (colour : Colour α) (factor : α) : Colour α :=
  ⟨colour.red * factor, colour.green * factor, colour.blue * factor⟩

/-- The value nearest to a channel between 0 and 1. What is no number stays. -/
@[inline]
def clampChannel (channel : α) : α :=
  if channel < 0.0 then 0.0 else if 1.0 < channel then 1.0 else channel

/-- The colour with every channel between 0 and 1. -/
@[inline]
def clamp (colour : Colour α) : Colour α :=
  ⟨clampChannel colour.red, clampChannel colour.green, clampChannel colour.blue⟩

@[inline]
def total (colour : Colour α) : α :=
  colour.red + colour.green + colour.blue

end Colour

end Throughput.RayTracing
