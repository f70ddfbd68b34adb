import FilterBar.Text
import FilterBar.Text.CaseTable

/-!
# Lower case

`lower` maps a text to lower case code point by code point, by the table of `CaseTable`, with two
exceptions: a capital I with a dot becomes two code points, and a capital sigma is written in its
final form where it ends a word.
-/

namespace FilterBar.Text

def CaseRun.covers (r : CaseRun) (n : Nat) : Bool :=
  r.first ≤ n && n ≤ r.last && (n - r.first) % r.step == 0

def inRanges (ranges : List (Nat × Nat)) (c : Char) : Bool :=
  ranges.any fun r => r.1 ≤ c.toNat && c.toNat ≤ r.2

/-- The lower-case form of a single letter. ASCII is decided without the table. -/
def lowerLetter (c : Char) : Char :=
  if c.toNat < 0x80 then
    if 'A' ≤ c && c ≤ 'Z' then Char.ofNat (c.toNat + 32) else c
  else
    match caseRuns.find? (·.covers c.toNat) with
    | some r => Char.ofNat (c.toNat + r.distance).toNat
    | none => c

/-- Whether the nearest letter, past the marks that are passed over, has case. -/
def meetsCased : Text → Bool
  | [] => false
  | c :: r => if inRanges caseIgnorableRanges c then meetsCased r else inRanges casedRanges c

/-- The lower-case form of `c` between `before`, read backwards, and `after`. A capital sigma is
final if a letter with case comes before it in its word and none after it. -/
def lowerAt (before : Text) (c : Char) (after : Text) : Text :=
  if c == 'Σ' then [if meetsCased before && !meetsCased after then 'ς' else 'σ']
  else if c == 'İ' then ['i', '\u0307']
  else [lowerLetter c]

def lowerFrom (before : Text) : Text → Text
  | [] => []
  | c :: r => lowerAt before c r ++ lowerFrom (c :: before) r

def lower (t : Text) : Text := lowerFrom [] t

theorem lower_nil : lower [] = [] := rfl

end FilterBar.Text
