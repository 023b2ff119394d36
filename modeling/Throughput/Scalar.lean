/-!
Contract: the arithmetic in which the statistics, the particle motion and the
ray tracer are written.

Owns:
- `Scalar`, the operations that a numeric definition of this library may use;
- the double precision instance, which is the one that runs;
- the sum of a list and the larger of two values.

A definition over `Scalar` has one text and one order of evaluation. Run on
`Float` it rounds at every operation; read over a field with exact operations
it says what the rounded program approximates. Literals are written with a
decimal point, so that they come from `OfScientific` in either reading.
-/

namespace Throughput

/-- The operations of numeric code: the four operations and negation, the
order, the functions that the workloads call, and the tests for the values
that are no numbers. -/
class Scalar (α : Type) extends
    Add α, Sub α, Mul α, Div α, Neg α, LT α, LE α, OfScientific α where
  /-- The value of a count, rounded to the nearest scalar. -/
  ofNat : Nat → α
  sqrt : α → α
  sin : α → α
  cos : α → α
  /-- What is left of the point, cut off: `value` minus its integral part
  toward zero. -/
  fract : α → α
  /-- Whether the value is the outcome of an operation without a result. -/
  isNaN : α → Bool
  /-- Whether the value is a number and not an infinity. -/
  isFinite : α → Bool
  /-- A value that no number lies below: the maximum of no values. -/
  lowest : α
  decidableLT : ∀ left right : α, Decidable (left < right)
  decidableLE : ∀ left right : α, Decidable (left ≤ right)

namespace Scalar

variable {α : Type} [Scalar α]

instance (left right : α) : Decidable (left < right) :=
  decidableLT left right

instance (left right : α) : Decidable (left ≤ right) :=
  decidableLE left right

/-- The sum from left to right. It starts from negative zero, which is the
neutral element of rounded addition: a sum of negative zeros stays negative
zero. -/
@[specialize]
def sum (values : List α) : α :=
  values.foldl (· + ·) (-0.0)

/-- The larger of two values. A value that is no number gives way to the
other one, and of two equal values the second is taken. -/
@[inline]
def larger (left right : α) : α :=
  if isNaN right then left else if right < left then left else right

end Scalar

/-- Double precision: every operation is the exact result rounded to the
nearest double. -/
instance : Scalar Float where
  ofNat := Float.ofNat
  sqrt := Float.sqrt
  sin := Float.sin
  cos := Float.cos
  fract := fun value =>
    if value < 0.0 then value - value.ceil else value - value.floor
  isNaN := Float.isNaN
  isFinite := Float.isFinite
  lowest := -(1.0 / 0.0)
  decidableLT := fun left right => inferInstanceAs (Decidable (left < right))
  decidableLE := fun left right => inferInstanceAs (Decidable (left ≤ right))

end Throughput
