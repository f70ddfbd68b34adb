import FilterBar.Yaml.Cursor
import FilterBar.Text.Numeral

/-!
# Block scalars

After a bar or an angle bracket a scalar is written as a block of lines. Its header may tell how
far the block is indented, and what becomes of the breaks at its end: they are dropped, kept, or
all but the first are dropped. A folded block joins lines that begin with text.
-/

namespace FilterBar.Yaml

/-- What becomes of the breaks at the end of a block. -/
inductive Chomping where
  | drop
  | clip
  | keep
deriving DecidableEq

structure BlockHeader where
  chomping : Chomping := .clip
  /-- By how much the block is indented further than the one around it, if that is told. -/
  indent : Option Nat := none

/-! ## Headers -/

def chompingMark? : Text → Option (Chomping × Text)
  | '+' :: r => some (.keep, r)
  | '-' :: r => some (.drop, r)
  | _ => none

/-- An indentation from 1 to 9. -/
def indentMark? : Text → Option (Nat × Text)
  | c :: r => (Text.digitIn? 10 c).map fun d => (d, r)
  | [] => none

/-- The two parts of a header, in any order, and what follows them. -/
def BlockHeader.ofText (t : Text) : BlockHeader × Text :=
  match chompingMark? t with
  | some (chomping, r) =>
    match indentMark? r with
    | some (n, r) => (⟨chomping, some n⟩, r)
    | none => (⟨chomping, none⟩, r)
  | none =>
    match indentMark? t with
    | some (n, r) =>
      match chompingMark? r with
      | some (chomping, r) => (⟨chomping, some n⟩, r)
      | none => (⟨.clip, some n⟩, r)
    | none => ({}, t)

def blockHeader (c : Cursor) : Result (BlockHeader × Cursor) :=
  let (h, r) := BlockHeader.ofText c.rest
  if h.indent = some 0 || !atSpace r then refuse .badHeader
  else match (c.forward (c.rest.length - r.length)).endLine? with
    | some c => .ok (h, c)
    | none => refuse .badHeader

/-! ## Lines -/

/-- The breaks before the first line with text, and the deepest column on the way to it. -/
def blockStart : Nat → Cursor → Text × Nat × Cursor
  | 0, c => ([], 0, c)
  | fuel + 1, c =>
    match c.rest with
    | [] => ([], 0, c)
    | x :: _ =>
      if x == ' ' then
        let (bs, deepest, after) := blockStart fuel c.next
        (bs, max c.next.column deepest, after)
      else if isBreak x then
        let (bs, deepest, after) := blockStart fuel c.next
        (lineBreak x :: bs, deepest, after)
      else ([], 0, c)

def Cursor.indent (column : Nat) (c : Cursor) : Cursor :=
  c.forward ((c.rest.takeWhile (· == ' ')).take (column - c.column)).length

/-- The breaks of empty lines, up to the next line with text at the column, if there is one. -/
def blockBreaks (column : Nat) : Nat → Cursor → Text × Cursor
  | 0, c => ([], c)
  | fuel + 1, c =>
    let c := c.indent column
    match c.rest with
    | [] => ([], c)
    | x :: _ =>
      if isBreak x then
        let (bs, c) := blockBreaks column fuel c.next
        (lineBreak x :: bs, c)
      else ([], c)

structure BlockBody where
  text : Text
  /-- The break after the last line, and the breaks of empty lines after it. -/
  lastBreak : Text
  later : Text
  cursor : Cursor

def beginsWithText : Text → Bool
  | [] => true
  | c :: _ => c != ' ' && c != '\t'

/-- The lines from here on, after the breaks of empty lines. -/
def blockBody (folded : Bool) (column : Nat) : Nat → Text → Cursor → BlockBody
  | 0, breaks, c => ⟨[], [], breaks, c⟩
  | fuel + 1, breaks, c =>
    if c.column ≠ column || c.rest.isEmpty then ⟨[], [], breaks, c⟩
    else
      let line := c.rest.takeWhile fun x => !isBreak x
      let c := c.forward line.length
      let lastBreak := (c.rest.take 1).map lineBreak
      let (later, c) := blockBreaks column fuel c.next
      if c.column ≠ column || c.rest.isEmpty then ⟨breaks ++ line, lastBreak, later, c⟩
      else
        let joins :=
          folded && lastBreak == ['\n'] && beginsWithText line && beginsWithText c.rest
        let between := if !joins then lastBreak else if later.isEmpty then [' '] else []
        let more := blockBody folded column fuel later c
        { more with text := breaks ++ line ++ between ++ more.text }

/-- A block scalar from behind its mark on, in a block that has to be indented to at least the
column `least`. -/
def blockScalar (folded : Bool) (least : Nat) (c : Cursor) : Result (Text × Cursor) := do
  let (h, c) ← blockHeader c
  let fuel := c.rest.length + 1
  let (column, breaks, c) := match h.indent with
    | some n =>
      let column := least + n - 1
      let (breaks, c) := blockBreaks column fuel c
      (column, breaks, c)
    | none =>
      let (breaks, deepest, c) := blockStart fuel c
      (max least deepest, breaks, c)
  let body := blockBody folded column fuel breaks c
  let ending := match h.chomping with
    | .drop => []
    | .clip => body.lastBreak
    | .keep => body.lastBreak ++ body.later
  .ok (body.text ++ ending, body.cursor)

end FilterBar.Yaml
