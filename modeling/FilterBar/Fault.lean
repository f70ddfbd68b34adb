import FilterBar.Text

/-!
# Faults

Most of what goes wrong is reported and the run goes on without it. A fault is what nothing
provides for: it ends the run.
-/

namespace FilterBar

inductive Fault where
  /-- Digits that make up no number, or more of them than a number may have. -/
  | notANumber
  /-- A number without anything but its sign. -/
  | emptyNumber
  /-- A place of a number in base 60 that no floating-point number reaches. -/
  | placeTooHigh
  /-- Neither yes nor no. -/
  | notYesOrNo
  | notATimestamp
  /-- A timestamp that is written as a mapping. -/
  | timestampNotText
  /-- A day or a time that the calendar does not have. -/
  | noSuchTime
  /-- An escape by number that stands for no character. -/
  | notACharacter (code : Nat)
  /-- Collections within each other, more than can be followed. -/
  | nestedTooDeep
  /-- A number of more digits than are ever written. -/
  | tooManyDigits
  | pathHoldsZero
  | pathTooLong (path : Text)
  /-- The home directory of a person who is not known. -/
  | unknownPerson (name : Text)
  /-- The log level is given, but is no text. -/
  | levelNotText (kind : Text)
  /-- The log file is given, but is no text. -/
  | fileNotText (kind : Text)
  /-- An option that was given without the value that it needs. -/
  | missingValue (option : Text)
deriving DecidableEq

def Fault.message : Fault → Text
  | notANumber => "not a number"
  | emptyNumber => "a number without digits"
  | placeTooHigh => "a number in base 60 with too many places"
  | notYesOrNo => "neither yes nor no"
  | notATimestamp => "not a timestamp"
  | timestampNotText => "a timestamp has to be a text"
  | noSuchTime => "the calendar has no such day or time"
  | notACharacter code => "no character has the number " ++ Text.ofNat code
  | nestedTooDeep => "collections are nested too deep"
  | tooManyDigits => "a number has too many digits to be written"
  | pathHoldsZero => "a path cannot hold a zero character"
  | pathTooLong path => "the path is too long: " ++ path
  | unknownPerson name => "the home directory is not known: " ++ name
  | levelNotText kind => "the log level has to be a text, not a " ++ kind
  | fileNotText kind => "the log file has to be named by a text, not by a " ++ kind
  | missingValue option => "an option needs a value: --" ++ option

end FilterBar
