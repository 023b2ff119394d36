/-!
Contract: what the 64 bits of a double mean.

Owns:
- `Binary`, the reading of a bit pattern: no number, an infinity, or a sign
  with a magnitude `significand * 2 ^ exponent`;
- `Float.reading`, which takes the bits of a double apart.

The texts of this library are computed from this reading by exact arithmetic
on naturals, so that no rounding happens between a double and its digits.
-/

namespace Throughput.Decimal

/-- A magnitude `significand * 2 ^ exponent`. -/
structure Dyadic where
  significand : Nat
  exponent : Int
deriving DecidableEq, Repr

inductive Binary where
  | notANumber
  | infinite (negative : Bool)
  | finite (negative : Bool) (magnitude : Dyadic)
deriving DecidableEq, Repr

namespace Binary

/-- The number of stored significand bits. -/
def fractionBits : Nat := 52

/-- The significand at which a binade starts: the hidden bit. -/
def hiddenBit : Nat := Nat.pow 2 fractionBits

/-- The exponent of the unit of the smallest binade and of the subnormals. -/
def leastExponent : Int := -1074

/-- The reading of a bit pattern. The exponent field 0 holds the subnormals,
the field 2047 the infinities and what is no number; every other field adds
the hidden bit. -/
def ofBits (bits : Nat) : Binary :=
  let negative := bits / Nat.pow 2 63 % 2 = 1
  let field := bits / hiddenBit % Nat.pow 2 11
  let fraction := bits % hiddenBit
  if field = 2047 then
    if fraction = 0 then .infinite negative else .notANumber
  else if field = 0 then
    .finite negative ⟨fraction, leastExponent⟩
  else
    .finite negative ⟨hiddenBit + fraction, leastExponent + (field - 1 : Nat)⟩

end Binary

def reading (value : Float) : Binary :=
  Binary.ofBits value.toBits.toNat

namespace Dyadic

/-- The magnitude as a quotient of naturals with the factor `10 ^ shift`
applied: `significand * 2 ^ exponent * 10 ^ shift`. -/
def quotient (magnitude : Dyadic) (shift : Int) : Nat × Nat :=
  (magnitude.significand * Nat.pow 2 magnitude.exponent.toNat *
      Nat.pow 10 shift.toNat,
    Nat.pow 2 (-magnitude.exponent).toNat * Nat.pow 10 (-shift).toNat)

end Dyadic

end Throughput.Decimal
