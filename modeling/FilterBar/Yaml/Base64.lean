import FilterBar.Yaml.Failure

/-!
# Bytes of a document

Bytes are written in base 64: four characters for three bytes, and filled up with equals signs at
the end. Any other character is passed over.

- `readBytes`: the bytes of a text.
-/

namespace FilterBar.Yaml

def sextet? (c : Char) : Option Nat :=
  if 'A' ≤ c && c ≤ 'Z' then some (c.toNat - 'A'.toNat)
  else if 'a' ≤ c && c ≤ 'z' then some (c.toNat - 'a'.toNat + 26)
  else if c.isDigit then some (c.toNat - '0'.toNat + 52)
  else if c == '+' then some 62
  else if c == '/' then some 63
  else none

/-- The bytes of the characters from here on, after `place` characters of a group of four. Of those
the bits that make up no byte yet are `left`, and `pads` equals signs came after them. -/
def bytesFrom? (place left pads : Nat) : Text → Option (List UInt8)
  | [] => if place = 0 then some [] else none
  | c :: r =>
    if c == '=' then
      if 2 ≤ place then
        if 4 ≤ place + pads + 1 then some [] else bytesFrom? place left (pads + 1) r
      else bytesFrom? place left pads r
    else match sextet? c with
      | none => bytesFrom? place left pads r
      | some v =>
        if place = 0 then bytesFrom? 1 v 0 r
        else if place = 1 then
          (bytesFrom? 2 (v % 16) 0 r).map (UInt8.ofNat (left * 4 + v / 16) :: ·)
        else if place = 2 then
          (bytesFrom? 3 (v % 4) 0 r).map (UInt8.ofNat (left * 16 + v / 4) :: ·)
        else (bytesFrom? 0 0 0 r).map (UInt8.ofNat (left * 64 + v) :: ·)

/-- The bytes of a text in base 64, which has to be ASCII. -/
def readBytes (t : Text) : Except Error (List UInt8) :=
  if t.any fun c => 0x80 ≤ c.toNat then .error .badBase64
  else match bytesFrom? 0 0 0 t with
    | some bs => .ok bs
    | none => .error .badBase64

end FilterBar.Yaml
