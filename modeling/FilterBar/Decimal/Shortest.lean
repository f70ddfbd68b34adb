import FilterBar.Text

/-!
# The shortest decimal that reads back

A floating-point number stands for every real that rounds to it. `shortest` finds the fewest
decimal digits that name one of these, and of those the ones nearest to the number, with an exact
tie going to the even neighbour. All comparisons are in natural numbers.

- `Binary.ofBits?`: the magnitude of a finite number as `mantissa · 2 ^ exponent`.
- `shortest`: the digits and the place of the point.
- `text`: the number as it is written.
-/

namespace FilterBar.Decimal

/-! ## Binary magnitudes -/

/-- The magnitude `mantissa · 2 ^ exponent`. -/
structure Binary where
  mantissa : Nat
  exponent : Int
  /-- Whether the next smaller number is only half as far away as the next greater one. -/
  atBoundary : Bool

/-- The magnitude that the lower 63 bits of a double encode, unless they encode infinity or no
number. -/
def Binary.ofBits? (bits : Nat) : Option Binary :=
  let fraction : Nat := bits % Nat.pow 2 52
  let biased : Nat := bits / Nat.pow 2 52 % Nat.pow 2 11
  if biased = 2047 then none
  else if biased = 0 then some ⟨fraction, -1074, false⟩
  else some ⟨Nat.pow 2 52 + fraction, Int.ofNat biased - 1075, fraction = 0 && 1 < biased⟩

/-- The digits `digits` with the decimal point `point` places after the first of them. -/
structure Numeral where
  digits : Nat
  point : Int
deriving DecidableEq

/-- A number and the ends of the reals that round to it, as fractions with one denominator. The
ends belong to them if `closed`. -/
structure Interval where
  low : Nat
  value : Nat
  high : Nat
  denominator : Nat
  closed : Bool

def Binary.interval (b : Binary) : Interval :=
  let up := Nat.pow 2 (b.exponent - 2).toNat
  { low := (4 * b.mantissa - if b.atBoundary then 1 else 2) * up
    value := 4 * b.mantissa * up
    high := (4 * b.mantissa + 2) * up
    denominator := Nat.pow 2 (2 - b.exponent).toNat
    closed := b.mantissa % 2 = 0 }

/-- The number of zeros between the point and the first digit of `value / denominator < 1`, looked
for in `fuel` places. -/
def leadingZeros (value denominator : Nat) : Nat → Nat
  | 0 => 0
  | fuel + 1 =>
    if denominator ≤ 10 * value then 0 else leadingZeros (10 * value) denominator fuel + 1

/-- Where the point stands, counted from the first digit. A double has its first digit within 324
places after the point. -/
def Interval.point (i : Interval) : Int :=
  let whole := i.value / i.denominator
  if whole = 0 then -(leadingZeros i.value i.denominator 330 : Int)
  else (Nat.toDigits 10 whole).length

/-- The neighbour of the number on the grid of `count` digits that lies in the interval, the nearer
one if both do. -/
def Interval.onGrid? (i : Interval) (count : Nat) : Option Nat :=
  let shift := (count : Int) - i.point
  let finer := Nat.pow 10 shift.toNat
  let unit := i.denominator * Nat.pow 10 (-shift).toNat
  let below := i.value * finer / unit
  let inside (d : Nat) : Bool :=
    let x := d * unit
    if i.closed then i.low * finer ≤ x && x ≤ i.high * finer
    else i.low * finer < x && x < i.high * finer
  let twice := 2 * (i.value * finer - below * unit)
  let upper := unit < twice || (unit == twice && below % 2 == 1)
  match inside below, inside (below + 1) with
  | true, true => some (if upper then below + 1 else below)
  | true, false => some below
  | false, true => some (below + 1)
  | false, false => none

/-- The digits on the first grid that has some, starting from `count` digits. -/
def Interval.digitsFrom (i : Interval) (count : Nat) : Nat → Numeral
  | 0 => ⟨0, 0⟩
  | fuel + 1 =>
    match i.onGrid? count with
    | some d => ⟨d, i.point + ((Nat.toDigits 10 d).length - count : Int)⟩
    | none => i.digitsFrom (count + 1) fuel

/-- The shortest digits of a magnitude. Seventeen always suffice. -/
def shortest (b : Binary) : Numeral :=
  if b.mantissa = 0 then ⟨0, 1⟩ else b.interval.digitsFrom 1 17

/-! ## Writing -/

def Numeral.significant (d : Numeral) : Text := Text.dropEnd (· == '0') (Text.ofNat d.digits)

/-- The number with its point among the digits, and at least one digit after it. -/
def Numeral.positional (d : Numeral) : Text :=
  let ds := d.significant
  if d.point ≤ 0 then "0." ++ List.replicate (-d.point).toNat '0' ++ ds
  else
    let n := d.point.toNat
    let whole := ds.take n ++ List.replicate (n - ds.length) '0'
    whole ++ "." ++ (if (ds.drop n).isEmpty then "0" else ds.drop n : Text)

/-- The number with an exponent of ten of at least two digits. -/
def Numeral.scientific (d : Numeral) : Text :=
  let e := d.point - 1
  let rest := d.significant.drop 1
  d.significant.take 1 ++ (if rest.isEmpty then [] else '.' :: rest) ++
    (if e < 0 then "e-" else "e+" : Text) ++ Text.ofNatPadded 2 e.natAbs

/-- A number is written with its point from a ten-thousandth up to sixteen digits before the
point, and with an exponent beyond. -/
def Numeral.text (d : Numeral) : Text :=
  if d.digits = 0 then "0.0"
  else if -4 < d.point ∧ d.point ≤ 16 then d.positional
  else d.scientific

/-- A floating-point number in the fewest digits that read back. -/
def text (x : Float) : Text :=
  let bits := x.toBits.toNat
  let sign : Text := if bits < Nat.pow 2 63 then [] else "-"
  match Binary.ofBits? bits with
  | some b => sign ++ (shortest b).text
  | none => if bits % Nat.pow 2 52 = 0 then sign ++ "inf" else "nan"

end FilterBar.Decimal
