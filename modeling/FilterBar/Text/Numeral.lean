import FilterBar.Text
import FilterBar.Text.DigitTable
import FilterBar.Decimal.Nearest

/-!
# Reading numbers

- `digitIn?`: the value of an ASCII digit in a base up to sixteen.
- `readIntIn?`: reads a whole number as people type it, with blanks around it, a sign, leading
  zeros, digits of any decimal system, and single underscores between digits.
- `readFloat?`: reads a floating-point number, with blanks around it and a sign.
-/

namespace FilterBar.Text

/-- The value of an ASCII digit, or of a letter that stands for one, in a base up to sixteen. -/
def digitIn? (base : Nat) (c : Char) : Option Nat :=
  let n := c.toNat
  let d := if '0' ≤ c && c ≤ '9' then n - '0'.toNat
    else if 'a' ≤ c && c ≤ 'f' then n - 'a'.toNat + 10
    else if 'A' ≤ c && c ≤ 'F' then n - 'A'.toNat + 10
    else base
  if d < base then some d else none

/-- The value of a decimal digit of any digit system. -/
def digitValue? (c : Char) : Option Nat :=
  (digitZeros.find? fun z => z ≤ c.toNat && c.toNat < z + 10).map (c.toNat - ·)

/-- The value of a digit of any digit system in a base up to sixteen. -/
def anyDigitIn? (base : Nat) (c : Char) : Option Nat :=
  match digitIn? base c with
  | some d => some d
  | none => (digitValue? c).filter (· < base)

/-- A blank beside a number: the information separators do not count. -/
def isBlankBesideNumber (c : Char) : Bool :=
  isBlank c && !(0x1C ≤ c.toNat && c.toNat ≤ 0x1F)

/-- Whether a sign says that a number is negative, and the number without its sign. -/
def splitSign : Text → Bool × Text
  | '-' :: r => (true, r)
  | '+' :: r => (false, r)
  | t => (false, t)

/-! ## Whole numbers -/

/-- The most digits that a decimal number may have, zeros at its beginning among them. -/
def mostDigits : Nat := 4300

/-- Digits with single underscores between them, after the digits worth `value`. -/
def readDigitsAfter (base value : Nat) : Text → Option Nat
  | [] => some value
  | ['_'] => none
  | '_' :: c :: r => (anyDigitIn? base c).bind fun d => readDigitsAfter base (base * value + d) r
  | c :: r => (anyDigitIn? base c).bind fun d => readDigitsAfter base (base * value + d) r

/-- An unsigned numeral: it begins with a digit. -/
def readNatIn? (base : Nat) (t : Text) : Option Nat :=
  match t with
  | [] => none
  | c :: r =>
    if base = 10 ∧ mostDigits < t.length - t.count '_' then none
    else (anyDigitIn? base c).bind fun d => readDigitsAfter base d r

def baseLetter? (base : Nat) : Option Char :=
  if base = 2 then some 'b' else if base = 8 then some 'o' else if base = 16 then some 'x' else none

/-- A numeral without the mark of its base, a zero and a letter, if it has one. -/
def dropBase (base : Nat) (t : Text) : Text :=
  match t with
  | '0' :: c :: r =>
    if (baseLetter? base).any fun l => c == l || c == l.toUpper then
      if r.head? = some '_' then r.drop 1 else r
    else t
  | t => t

def readIntIn? (base : Nat) (t : Text) : Option Int :=
  let (negative, body) := splitSign (trim isBlankBesideNumber t)
  (readNatIn? base (dropBase base body)).map fun n => if negative then -(n : Int) else n

def readInt? (t : Text) : Option Int := readIntIn? 10 t

/-! ## Floating-point numbers -/

/-- The digits that a text begins with, as their values, and what follows them. -/
def leadingDigits : Text → List Nat × Text
  | [] => ([], [])
  | c :: r =>
    match digitValue? c with
    | some d =>
      let (ds, r) := leadingDigits r
      (d :: ds, r)
    | none => ([], c :: r)

def valueOf (digits : List Nat) : Nat := digits.foldl (fun n d => 10 * n + d) 0

/-- An exponent of ten: a letter, perhaps a sign, and digits, or nothing. -/
def readExponent? : Text → Option Int
  | [] => some 0
  | e :: r =>
    let (negative, r) := splitSign r
    match leadingDigits r with
    | (d :: ds, []) =>
      if e == 'e' || e == 'E' then
        let n := valueOf (d :: ds)
        some (if negative then -(n : Int) else n)
      else none
    | _ => none

/-- Digits with a point and an exponent. One side of the point may be empty. -/
def readDecimal? (t : Text) : Option Float :=
  let (whole, r) := leadingDigits t
  let (fraction, r) := match r with
    | '.' :: r => leadingDigits r
    | r => ([], r)
  if whole.isEmpty && fraction.isEmpty then none
  else (readExponent? r).map fun e =>
    Decimal.toFloat (valueOf (whole ++ fraction)) (e - fraction.length)

/-- A floating-point number in lower case, or the name of one. -/
def readFloat? (t : Text) : Option Float :=
  let (negative, body) := splitSign (trim isBlankBesideNumber t)
  let x? := if body = "inf" ∨ body = "infinity" then some Decimal.infinity
    else if body = "nan" then some Decimal.notANumber
    else readDecimal? body
  x?.map fun x => if negative then -x else x

end FilterBar.Text
