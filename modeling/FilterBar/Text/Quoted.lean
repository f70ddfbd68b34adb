import FilterBar.Text
import FilterBar.Text.Printable

/-!
# Texts shown in quotes

In a message a text is shown between single quotes, or between double quotes if it holds a single
quote and no double one. The backslash, the quote around it and what has no printed form are
escaped.
-/

namespace FilterBar.Text

/-- The last `width` digits of a number in base sixteen. -/
def hexDigits (width n : Nat) : Text :=
  let ds := Nat.toDigits 16 n
  List.replicate (width - ds.length) '0' ++ ds

/-- A character between quotes of the given kind. -/
def shownChar (mark c : Char) : Text :=
  if c == mark || c == '\\' then ['\\', c]
  else if c == '\n' then ['\\', 'n']
  else if c == '\r' then ['\\', 'r']
  else if c == '\t' then ['\\', 't']
  else if isPrintable c then [c]
  else if c.toNat < 0x100 then '\\' :: 'x' :: hexDigits 2 c.toNat
  else if c.toNat < 0x10000 then '\\' :: 'u' :: hexDigits 4 c.toNat
  else '\\' :: 'U' :: hexDigits 8 c.toNat

def shown (t : Text) : Text :=
  let mark := if t.contains '\'' && !t.contains '"' then '"' else '\''
  mark :: t.flatMap (shownChar mark) ++ [mark]

/-- Bytes as a message shows them: as characters where these can be printed. -/
def shownBytes (bs : List UInt8) : Text :=
  let t := bs.map fun b => Char.ofNat b.toNat
  let mark := if t.contains '\'' && !t.contains '"' then '"' else '\''
  let shownByte (c : Char) : Text :=
    if 0x7F ≤ c.toNat then '\\' :: 'x' :: hexDigits 2 c.toNat else shownChar mark c
  'b' :: mark :: t.flatMap shownByte ++ [mark]

end FilterBar.Text
