import FilterBar.Yaml.Cursor
import FilterBar.Text.Numeral

/-!
# Quoted scalars

A scalar between quotes may go over several lines, and the breaks between them are folded. Between
double quotes a backslash begins an escape, between single quotes two quotes stand for one.
-/

namespace FilterBar.Yaml

def escapes : List (Char × Char) :=
  [ ('0', '\x00'), ('a', '\x07'), ('b', '\x08'), ('t', '\t'), ('\t', '\t'), ('n', '\n'),
    ('v', '\x0b'), ('f', '\x0c'), ('r', '\r'), ('e', '\x1b'), (' ', ' '), ('"', '"'),
    ('\\', '\\'), ('/', '/'), ('N', '\u0085'), ('_', '\u00a0'), ('L', '\u2028'),
    ('P', '\u2029') ]

def escapeWidth? (c : Char) : Option Nat :=
  if c == 'x' then some 2 else if c == 'u' then some 4 else if c == 'U' then some 8 else none

/-- The breaks and blanks from here on, as the breaks they count as. -/
def quotedBreaks : Nat → Cursor → Result (Text × Cursor)
  | 0, c => .ok ([], c)
  | fuel + 1, c =>
    if c.atAnyMark then refuse .markInQuotation
    else
      let c := c.skip fun x => x == ' ' || x == '\t'
      match c.rest with
      | x :: _ =>
        if isBreak x then
          (quotedBreaks fuel c.next).map fun (bs, c) => (lineBreak x :: bs, c)
        else .ok ([], c)
      | [] => .ok ([], c)

/-- The number of an escape by number, from its letter on, and the length of the escape. -/
def escapeNumber? : Text → Option (Nat × Nat)
  | [] => none
  | x :: r => do
    let width ← escapeWidth? x
    let digits := r.take width
    let code ← digits.foldl
      (fun acc d => acc.bind fun n => (Text.digitIn? 16 d).map (16 * n + ·)) (some 0)
    if digits.length = width then some (code, width + 1) else none

/-- The number of the second half of a character, if it is escaped here. -/
def secondHalf? : Text → Option (Nat × Nat)
  | '\\' :: r => (escapeNumber? r).filter fun e => 0xDC00 ≤ e.1 && e.1 < 0xE000
  | _ => none

/-- The character with a number, which began at the cursor. A character beyond the first plane may
be escaped in two halves; a half by itself is replaced. -/
def numbered (code length : Nat) (c : Cursor) : Result (Text × Cursor) :=
  let c := c.forward length
  if 0x10FFFF < code then .error (.fault (.notACharacter code))
  else if 0xD800 ≤ code && code < 0xDC00 then
    match secondHalf? c.rest with
    | some (low, length) =>
      let code := 0x10000 + (code - 0xD800) * 0x400 + (low - 0xDC00)
      .ok ([Char.ofNat code], c.forward (length + 1))
    | none => .ok (['\ufffd'], c)
  else if 0xDC00 ≤ code && code < 0xE000 then .ok (['\ufffd'], c)
  else .ok ([Char.ofNat code], c)

/-- The character that an escape stands for, after the backslash. A break after the backslash
joins two lines. -/
def escaped (c : Cursor) : Result (Text × Cursor) :=
  match c.rest with
  | [] => refuse .unknownEscape
  | x :: r =>
    match escapes.lookup x, escapeNumber? c.rest with
    | some y, _ => .ok ([y], c.next)
    | none, some (code, length) => numbered code length c
    | none, none =>
      if isBreak x then quotedBreaks r.length.succ c.next else refuse .unknownEscape

/-- A quoted scalar from behind its first quote on. -/
def quotedScalar (double : Bool) : Nat → Cursor → Result (Text × Cursor)
  | 0, _ => refuse .openQuotation
  | fuel + 1, c =>
    match c.rest with
    | [] => refuse .openQuotation
    | '"' :: _ => if double then .ok ([], c.next) else more ['"'] fuel c.next
    | '\'' :: '\'' :: _ => more ['\''] fuel (if double then c.next else c.forward 2)
    | '\'' :: _ => if double then more ['\''] fuel c.next else .ok ([], c.next)
    | '\\' :: _ =>
      if double then do
        let (t, c) ← escaped c.next
        more t fuel c
      else more ['\\'] fuel c.next
    | x :: _ =>
      if x == ' ' || x == '\t' || isBreak x then do
        let blanks := c.rest.takeWhile fun x => x == ' ' || x == '\t'
        let c := c.forward blanks.length
        match c.rest with
        | [] => refuse .openQuotation
        | y :: _ =>
          if isBreak y then
            let (bs, c) ← quotedBreaks c.rest.length c.next
            more (fold (lineBreak y) bs) fuel c
          else more blanks fuel c
      else more [x] fuel c.next
where
  more (t : Text) (fuel : Nat) (c : Cursor) : Result (Text × Cursor) :=
    (quotedScalar double fuel c).map fun (u, c) => (t ++ u, c)

end FilterBar.Yaml
