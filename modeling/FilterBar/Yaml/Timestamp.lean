import FilterBar.Value
import FilterBar.Fault

/-!
# Timestamps of a document

A timestamp is a day, or a day with a time: `2001-12-14t21:59:43.1-05:00`. The time may have a
fraction of its seconds, and the distance of its clock from universal time.

- `Timestamp.parse?`: the numbers of a timestamp.
- `Timestamp.value`: the day or the moment, unless the calendar has none.
-/

namespace FilterBar.Yaml

/-- A time of day, perhaps with the seconds by which its clock is ahead of universal time. -/
structure TimeOfDay where
  hour : Nat
  minute : Nat
  second : Nat
  microsecond : Nat
  offset : Option Int

structure Timestamp where
  day : Day
  time : Option TimeOfDay

/-! ## Parts -/

def ofDigits (digits : Text) : Nat := digits.foldl (fun n c => 10 * n + (c.toNat - '0'.toNat)) 0

/-- The number of at least `least` and at most `most` digits that a text begins with. -/
def leadingNumber? (least most : Nat) (t : Text) : Option (Nat × Text) :=
  let digits := (t.takeWhile Char.isDigit).take most
  if digits.length < least then none
  else some (ofDigits digits, t.drop digits.length)

/-- What follows a character that a text has to begin with. -/
def after? (mark : Char) : Text → Option Text
  | [] => none
  | c :: r => if c == mark then some r else none

/-- The microseconds of a fraction of a second, as far as its first six digits go. -/
def microseconds (digits : Text) : Nat := ofDigits ((digits ++ List.replicate 6 '0').take 6)

/-- The distance from universal time at the end of a timestamp, if it has one. -/
def offset? (t : Text) : Option (Option Int) :=
  match t with
  | [] => some none
  | _ =>
    match t.dropWhile fun c => c == ' ' || c == '\t' with
    | ['Z'] => some (some 0)
    | s :: r => do
      guard (s == '+' || s == '-')
      let (hours, r) ← leadingNumber? 1 2 r
      let (minutes, r) ← if r.isEmpty then some (0, r) else after? ':' r >>= leadingNumber? 2 2
      guard r.isEmpty
      let seconds : Int := (hours * 60 + minutes) * 60
      some (some (if s == '-' then -seconds else seconds))
    | [] => none

/-- What stands between the day and the time: a letter, or blanks. -/
def afterDay? : Text → Option Text
  | 'T' :: r | 't' :: r => some r
  | c :: r => if c == ' ' || c == '\t' then some (r.dropWhile fun c => c == ' ' || c == '\t')
    else none
  | [] => none

def timeOfDay? (t : Text) : Option TimeOfDay := do
  let (hour, t) ← leadingNumber? 1 2 t
  let (minute, t) ← after? ':' t >>= leadingNumber? 2 2
  let (second, t) ← after? ':' t >>= leadingNumber? 2 2
  let (fraction, t) := match t with
    | '.' :: r => (r.takeWhile Char.isDigit, r.dropWhile Char.isDigit)
    | t => ([], t)
  let offset ← offset? t
  some ⟨hour, minute, second, microseconds fraction, offset⟩

/-! ## Timestamps -/

def Timestamp.parse? (t : Text) : Option Timestamp := do
  let (year, t) ← leadingNumber? 4 4 t
  let (month, t) ← after? '-' t >>= leadingNumber? 1 2
  let (day, t) ← after? '-' t >>= leadingNumber? 1 2
  if t.isEmpty then some ⟨⟨year, month, day⟩, none⟩
  else
    let time ← afterDay? t >>= timeOfDay?
    some ⟨⟨year, month, day⟩, some time⟩

/-- Whether a plain scalar is a timestamp. A day by itself needs all of its digits. -/
def isTimestampForm (t : Text) : Bool :=
  match Timestamp.parse? t with
  | some ⟨_, none⟩ => t.length == 10
  | some _ => true
  | none => false

def Timestamp.value (t : Timestamp) : Except Fault Value :=
  match t.time with
  | none => if t.day.isValid then .ok (.day t.day) else .error .noSuchTime
  | some c =>
    let m : Moment := ⟨t.day, c.hour, c.minute, c.second, c.microsecond, c.offset⟩
    if m.isValid then .ok (.moment m) else .error .noSuchTime

def readTimestamp (t : Text) : Except Fault Value :=
  match Timestamp.parse? t with
  | some t => t.value
  | none => .error .notATimestamp

end FilterBar.Yaml
