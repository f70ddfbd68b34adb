import FilterBar.Text

/-!
# Days and moments

A day of the calendar, and a moment: a day with a time and perhaps the distance of its clock from
universal time. Both are shown in a message by their parts, and stand for a text in the order from
the year down.
-/

namespace FilterBar

structure Day where
  year : Nat
  month : Nat
  day : Nat
deriving DecidableEq

namespace Day

def isLeap (year : Nat) : Bool := year % 4 == 0 && (year % 100 != 0 || year % 400 == 0)

def daysIn (year month : Nat) : Nat :=
  if month = 2 then if isLeap year then 29 else 28
  else if month = 4 ∨ month = 6 ∨ month = 9 ∨ month = 11 then 30
  else 31

/-- Whether the calendar has the day. Years are from 1 to 9999. -/
def isValid (d : Day) : Bool :=
  1 ≤ d.year && d.year ≤ 9999 && 1 ≤ d.month && d.month ≤ 12 && 1 ≤ d.day &&
    d.day ≤ daysIn d.year d.month

/-- The number of days since the day before the calendar begins. -/
def number (d : Day) : Nat :=
  let past := d.year - 1
  past * 365 + past / 4 - past / 100 + past / 400 +
    (List.range (d.month - 1)).foldl (fun n m => n + daysIn d.year (m + 1)) 0 + d.day

def text (d : Day) : Text :=
  Text.ofNatPadded 4 d.year ++ "-" ++ Text.ofNatPadded 2 d.month ++ "-" ++ Text.ofNatPadded 2 d.day

def parts (d : Day) : List Nat := [d.year, d.month, d.day]

def shown (d : Day) : Text :=
  "datetime.date(" ++ Text.joinWith ", " (d.parts.map Text.ofNat) ++ ")"

end Day

structure Moment where
  day : Day
  hour : Nat
  minute : Nat
  second : Nat
  microsecond : Nat
  /-- The seconds by which the clock is ahead of universal time, if that is known. -/
  offset : Option Int
deriving DecidableEq

namespace Moment

def isValid (m : Moment) : Bool :=
  m.day.isValid && m.hour < 24 && m.minute < 60 && m.second < 60 && m.microsecond < 1000000 &&
    (m.offset.getD 0).natAbs < 86400

/-- The microseconds since the day before the calendar begins, by the clock of the moment. -/
def clockTime (m : Moment) : Nat :=
  (((m.day.number * 24 + m.hour) * 60 + m.minute) * 60 + m.second) * 1000000 + m.microsecond

/-- Whether two moments are the same. Of two clocks either both or none has to be tied to universal
time. -/
def same (m n : Moment) : Bool :=
  match m.offset, n.offset with
  | none, none => m.clockTime == n.clockTime
  | some a, some b => m.clockTime - a * 1000000 == n.clockTime - b * 1000000
  | _, _ => false

def offsetText (seconds : Int) : Text :=
  let minutes := seconds.natAbs / 60
  (if seconds < 0 then "-" else "+" : Text) ++ Text.ofNatPadded 2 (minutes / 60) ++ ":" ++
    Text.ofNatPadded 2 (minutes % 60)

def text (m : Moment) : Text :=
  m.day.text ++ " " ++ Text.ofNatPadded 2 m.hour ++ ":" ++ Text.ofNatPadded 2 m.minute ++ ":" ++
    Text.ofNatPadded 2 m.second ++
    (if m.microsecond = 0 then [] else '.' :: Text.ofNatPadded 6 m.microsecond) ++
    (m.offset.map offsetText).getD []

/-- A distance from universal time. One that is behind counts forward from a day behind. -/
def offsetShown (seconds : Int) : Text :=
  if seconds = 0 then "datetime.timezone.utc"
  else
    let distance : Text :=
      if seconds < 0 then "days=-1, seconds=" ++ Text.ofInt (seconds + 86400)
      else "seconds=" ++ Text.ofInt seconds
    "datetime.timezone(datetime.timedelta(" ++ distance ++ "))"

/-- The parts of a moment. Seconds are left out if they and what follows them are zero. -/
def parts (m : Moment) : List Nat :=
  m.day.parts ++ [m.hour, m.minute] ++
    (if m.microsecond ≠ 0 then [m.second, m.microsecond]
      else if m.second ≠ 0 then [m.second] else [])

def shown (m : Moment) : Text :=
  "datetime.datetime(" ++ Text.joinWith ", " (m.parts.map Text.ofNat) ++
    (m.offset.map fun s => ", tzinfo=" ++ offsetShown s).getD [] ++ ")"

end Moment

end FilterBar
