import FilterBar.Yaml.Cursor

/-!
# Plain scalars

A scalar without quotes ends at a mark of the collection around it, at a comment, or at a line that
is not indented further than its block. Between its lines, breaks are folded.
-/

namespace FilterBar.Yaml

def plainLength (inFlow : Bool) : Text → Nat
  | [] => 0
  | c :: r =>
    let colonEnds := atGap r || (inFlow && ",[]\x7b\x7d".toList.contains (r.headD ' '))
    if c == ' ' || c == '\t' || isBreak c then 0
    else if c == ':' && colonEnds then 0
    else if inFlow && ",?[]\x7b\x7d".toList.contains c then 0
    else plainLength inFlow r + 1

/-- The breaks and blanks from here on, as the breaks they count as. A document mark stops them,
which the flag tells. -/
def plainBreaks : Nat → Cursor → Text × Cursor × Bool
  | 0, c => ([], c, false)
  | fuel + 1, c =>
    match c.rest with
    | ' ' :: _ => plainBreaks fuel c.next
    | x :: _ =>
      if isBreak x then
        let c := c.next
        if c.atAnyMark then ([], c, true)
        else
          let (bs, c, stopped) := plainBreaks fuel c
          (lineBreak x :: bs, c, stopped)
      else ([], c, false)
    | [] => ([], c, false)

/-- The blanks after a piece of a plain scalar, as they count between two pieces, and whether a
line ended. Nothing is left of them before a document mark. -/
def plainGap (fuel : Nat) (c : Cursor) : Text × Cursor × Bool :=
  let blanks := c.rest.takeWhile (· == ' ')
  let c := c.forward blanks.length
  match c.rest with
  | x :: _ =>
    if isBreak x then
      let c := c.next
      if c.atAnyMark then ([], c, true)
      else
        let (bs, c, stopped) := plainBreaks fuel c
        (if stopped then [] else fold (lineBreak x) bs, c, true)
    else (blanks, c, false)
  | [] => (blanks, c, false)

/-- A plain scalar whose lines are indented by at least `indent`, and whether its last gap ended a
line. -/
def plainScalar (inFlow : Bool) (indent : Nat) : Nat → Cursor → Bool → Text × Cursor × Bool
  | 0, c, ended => ([], c, ended)
  | fuel + 1, c, ended =>
    let n := if c.rest.head? == some '#' then 0 else plainLength inFlow c.rest
    if n = 0 then ([], c, ended)
    else
      let piece := c.rest.take n
      let (gap, c, ended) := plainGap fuel (c.forward n)
      if gap.isEmpty || c.rest.head? == some '#' || (!inFlow && c.column < indent) then
        (piece, c, ended)
      else
        let (more, c, ended) := plainScalar inFlow indent fuel c ended
        (if more.isEmpty then piece else piece ++ gap ++ more, c, ended)

end FilterBar.Yaml
