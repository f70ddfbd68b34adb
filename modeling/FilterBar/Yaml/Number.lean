import FilterBar.Fault
import FilterBar.Text.Case
import FilterBar.Text.Numeral

/-!
# Numbers of a document

A plain scalar is a number if it has the form of one. A tag may ask for a number whatever the form
of its scalar is, so the reading does not rely on the form, and may fail.

- Whole numbers may be written in base 2, 8, 10 or 16, or in base 60 with colons, as in `1:30`.
  Underscores are passed over.
- A floating-point number needs a point. With an exponent, the exponent needs a sign.

The forms are `isWholeForm` and `isFloatForm`, the readings `readWhole` and `readFloat`.
-/

namespace FilterBar.Yaml

/-! ## Forms -/

def isDigitOrUnderscore (base : Nat) (c : Char) : Bool := c == '_' || (Text.digitIn? base c).isSome

/-- Whether a text is digits and underscores, beginning with a digit. -/
def isDecimalForm : Text → Bool
  | [] => false
  | c :: r => c.isDigit && r.all (isDigitOrUnderscore 10)

/-- Whether a text is a part of a number in base 60 after the first: a number below 60 in at most
two digits. -/
def isPlaceForm : Text → Bool
  | [c] => c.isDigit
  | [c, d] => '0' ≤ c && c ≤ '5' && d.isDigit
  | _ => false

/-- Whether a text is a decimal with parts in base 60 after it. -/
def isSexagesimalForm (t : Text) : Bool :=
  match Text.splitAll ':' t with
  | first :: p :: ps => isDecimalForm first && (p :: ps).all isPlaceForm
  | _ => false

def isWholeForm (t : Text) : Bool :=
  match (Text.splitSign t).2 with
  | '0' :: 'b' :: r => !r.isEmpty && r.all (isDigitOrUnderscore 2)
  | '0' :: 'x' :: r => !r.isEmpty && r.all (isDigitOrUnderscore 16)
  | '0' :: r => r.all (isDigitOrUnderscore 8)
  | body => isDecimalForm body || isSexagesimalForm body

def isExponentForm : Text → Bool
  | [] => true
  | e :: s :: ds =>
    (e == 'e' || e == 'E') && (s == '+' || s == '-') && !ds.isEmpty && ds.all Char.isDigit
  | _ => false

/-- Whether a plain scalar is a floating-point number. Infinity has a sign or none, the others
need digits in front of the point to have one. -/
def isFloatForm (t : Text) : Bool :=
  let body := (Text.splitSign t).2
  let signed := body.length < t.length
  if body = ".inf" ∨ body = ".Inf" ∨ body = ".INF" then true
  else if body = ".nan" ∨ body = ".NaN" ∨ body = ".NAN" then !signed
  else match Text.cut? '.' body with
    | none => false
    | some (whole, rest) =>
      let fraction := rest.takeWhile (isDigitOrUnderscore 10)
      let tail := rest.drop fraction.length
      if whole.isEmpty then !signed && isDecimalForm fraction && isExponentForm tail
      else if isDecimalForm whole then isExponentForm tail
      else isSexagesimalForm whole && tail.isEmpty

/-! ## Readings -/

/-- What was read, which is a fault if it is no number. -/
def orNotANumber {α : Type} (a? : Option α) : Except Fault α :=
  match a? with
  | some a => .ok a
  | none => .error .notANumber

def readUnsigned (t : Text) : Except Fault Int :=
  match t with
  | [] => .error .emptyNumber
  | '0' :: 'b' :: r => orNotANumber (Text.readIntIn? 2 r)
  | '0' :: 'x' :: r => orNotANumber (Text.readIntIn? 16 r)
  | '0' :: _ => orNotANumber (Text.readIntIn? 8 t)
  | _ => do
    let places ← (Text.splitAll ':' t).mapM fun p => orNotANumber (Text.readInt? p)
    .ok (places.foldl (60 * · + ·) 0)

def readWhole (t : Text) : Except Fault Int := do
  let (negative, body) := Text.splitSign (t.filter (· != '_'))
  let n ← readUnsigned body
  .ok (if negative then -n else n)

/-- A number in base 60, from its places, the lowest first. -/
def ofPlaces (places : List Float) : Except Fault Float :=
  places.zipIdx.foldlM (fun sum (x, k) =>
    let unit := Decimal.toFloat (Nat.pow 60 k) 0
    if unit.isInf then .error .placeTooHigh else .ok (sum + x * unit)) 0

def readFloat (t : Text) : Except Fault Float := do
  let t := Text.lower (t.filter (· != '_'))
  let (negative, body) := Text.splitSign t
  let x ←
    if t.isEmpty then .error .emptyNumber
    else if body = ".inf" then .ok Decimal.infinity
    else if body = ".nan" then .ok Decimal.notANumber
    else if body.contains ':' then do
      let places ← (Text.splitAll ':' body).mapM fun p => orNotANumber (Text.readFloat? p)
      ofPlaces places.reverse
    else orNotANumber (Text.readFloat? body)
  .ok (if negative then -x else x)

end FilterBar.Yaml
