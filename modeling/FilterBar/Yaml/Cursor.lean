import FilterBar.Yaml.Failure

/-!
# The characters of a document

The scanner moves through a document with a cursor, which knows its line and column.

- `Cursor`: the text that is left, and where it begins.
- `fold`: what line breaks count as in a scalar of several lines.
-/

namespace FilterBar.Yaml

/-! ## Characters -/

def isBreak (c : Char) : Bool :=
  c == '\n' || c == '\r' || c == '\u0085' || c == '\u2028' || c == '\u2029'

/-- A line break as it counts in a scalar. -/
def lineBreak (c : Char) : Char := if c == '\u2028' || c == '\u2029' then c else '\n'

/-- Whether the next character is a blank or the end of its line or of the text. -/
def atGap : Text → Bool
  | [] => true
  | c :: _ => c == ' ' || c == '\t' || isBreak c

/-- The same without tabs, which are no blanks around tags and directives. -/
def atSpace : Text → Bool
  | [] => true
  | c :: _ => c == ' ' || isBreak c

def isPrintableInYaml (c : Char) : Bool :=
  let n := c.toNat
  n == 0x09 || n == 0x0A || n == 0x0D || (0x20 ≤ n && n ≤ 0x7E) || n == 0x85 ||
    (0xA0 ≤ n && n ≤ 0xD7FF) || (0xE000 ≤ n && n ≤ 0xFFFD) || 0x10000 ≤ n

/-! ## The cursor -/

/-- The text that is left, and where it begins. -/
structure Cursor where
  rest : Text
  index : Nat := 0
  line : Nat := 0
  column : Nat := 0

namespace Cursor

/-- Past one character. A byte order mark takes no column. -/
def next (c : Cursor) : Cursor :=
  match c.rest with
  | [] => c
  | x :: r =>
    if isBreak x then ⟨r, c.index + 1, c.line + 1, 0⟩
    else ⟨r, c.index + 1, c.line, if x == '\ufeff' then c.column else c.column + 1⟩

def forward : Nat → Cursor → Cursor
  | 0, c => c
  | n + 1, c => forward n c.next

def skip (p : Char → Bool) (c : Cursor) : Cursor := c.forward (c.rest.takeWhile p).length

/-- Whether a document mark stands at the beginning of the line. -/
def atMark (mark : Text) (c : Cursor) : Bool :=
  c.column == 0 && mark.isPrefixOf c.rest && atGap (c.rest.drop mark.length)

def atAnyMark (c : Cursor) : Bool := c.atMark "---" || c.atMark "..."

/-- Past the blanks and the comment at the end of a line, and past its break. There may not be
anything else. -/
def endLine? (c : Cursor) : Option Cursor :=
  let c := c.skip (· == ' ')
  let c := if c.rest.head? == some '#' then c.skip fun x => !isBreak x else c
  match c.rest with
  | [] => some c
  | x :: _ => if isBreak x then some c.next else none

end Cursor

/-- What a run of breaks counts as in a scalar: the first is a blank, the rest stay. -/
def fold (first : Char) (later : Text) : Text :=
  (if first != '\n' then [first] else if later.isEmpty then [' '] else []) ++ later

end FilterBar.Yaml
