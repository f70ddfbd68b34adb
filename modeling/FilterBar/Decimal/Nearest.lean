import FilterBar.Decimal.Shortest

/-!
# The nearest floating-point number

A decimal stands for the double that is nearest to it, with an exact tie going to the even
neighbour. The rounding is done in natural numbers.

- `nearest`: the double nearest to a fraction.
- `toFloat`: the double nearest to digits with an exponent of ten.
- `isInteger`: whether a double is exactly a whole number.
-/

namespace FilterBar.Decimal

def infinity : Float := 1 / 0

def notANumber : Float := 0 / 0

def roundFraction (numerator denominator : Nat) : Nat :=
  let below := numerator / denominator
  let twice := 2 * (numerator % denominator)
  if denominator < twice || (denominator == twice && below % 2 == 1) then below + 1 else below

def scaled (numerator denominator : Nat) (exponent : Int) : Nat × Nat :=
  (numerator * Nat.pow 2 (-exponent).toNat, denominator * Nat.pow 2 exponent.toNat)

/-- The exponent at which a fraction has 53 binary digits before the point, or less if that is
the lowest exponent of all. -/
def binaryExponent (numerator denominator : Nat) : Int :=
  let e := max ((numerator.log2 : Int) - denominator.log2 - 53) (-1074)
  let (n, d) := scaled numerator denominator e
  if Nat.pow 2 53 ≤ n / d then e + 1 else e

/-- The double nearest to a fraction. Its bits count up from the smallest double, so that a
mantissa that is rounded up to the next power of two needs no further care. -/
def nearest (numerator denominator : Nat) : Float :=
  if numerator = 0 then 0
  else
    let e := binaryExponent numerator denominator
    let (n, d) := scaled numerator denominator e
    let bits := (e + 1074).toNat * Nat.pow 2 52 + roundFraction n d
    if 2047 * Nat.pow 2 52 ≤ bits then infinity else Float.ofBits bits.toUInt64

/-- The double nearest to `mantissa · 10 ^ exponent`. Doubles lie within 330 places around the
point. -/
def toFloat (mantissa : Nat) (exponent : Int) : Float :=
  let places := (Nat.toDigits 10 mantissa).length + exponent
  if mantissa = 0 ∨ places < -330 then 0
  else if 330 < places then infinity
  else nearest (mantissa * Nat.pow 10 exponent.toNat) (Nat.pow 10 (-exponent).toNat)

/-- Whether a double is exactly the given whole number. -/
def isInteger (x : Float) (n : Int) : Bool :=
  let bits := x.toBits.toNat
  match Binary.ofBits? bits with
  | none => false
  | some b =>
    (n == 0 || (n < 0) == (Nat.pow 2 63 ≤ bits)) &&
      b.mantissa * Nat.pow 2 b.exponent.toNat == n.natAbs * Nat.pow 2 (-b.exponent).toNat

end FilterBar.Decimal
