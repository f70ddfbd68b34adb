import FilterBar.Yaml.Cursor
import FilterBar.Text.Numeral

/-!
# Anchors, tags and directives

Before a value may stand an anchor, which gives it a name for aliases, and a tag, which says of
what kind it is. A tag is written in full between angle brackets, or begins with a handle, which
stands for the beginning of a tag. A directive before the document declares handles.

- `anchorName`, `tag`, `directive`: each from behind its mark or at it, with what follows.
-/

namespace FilterBar.Yaml

structure WrittenTag where
  handle : Option Text
  suffix : Text
deriving DecidableEq

inductive Directive where
  /-- The version of the language, of which only the major one matters. -/
  | version (major : Nat)
  /-- What a handle stands for. -/
  | handle (name stem : Text)
  | other
deriving DecidableEq

def isNameChar (c : Char) : Bool := c.isAlphanum || c == '-' || c == '_'

def anchorName (c : Cursor) : Result (Text × Cursor) :=
  let name := c.rest.takeWhile isNameChar
  let c := c.forward name.length
  let ends := atGap c.rest || (c.rest.head?.any "?:,]\x7d%@`".toList.contains)
  if name.isEmpty || !ends then refuse .badAnchor else .ok (name, c)

/-! ## Tags -/

def isTagChar (c : Char) : Bool :=
  c.isAlphanum || "-;/?:@&=+$,_.!~*'()[]".toList.contains c

/-- The bytes that are written as two digits after a percent sign each. -/
def percentBytes : Nat → Cursor → Result (List UInt8 × Cursor)
  | 0, c => .ok ([], c)
  | fuel + 1, c =>
    match c.rest with
    | '%' :: r =>
      match (r.take 2).mapM (Text.digitIn? 16) with
      | some [x, y] => do
        let (bs, c) ← percentBytes fuel (c.forward 3)
        .ok (UInt8.ofNat (16 * x + y) :: bs, c)
      | _ => refuse .badTag
    | _ => .ok ([], c)

def tagChars : Nat → Cursor → Result (Text × Cursor)
  | 0, c => .ok ([], c)
  | fuel + 1, c =>
    match c.rest with
    | [] => .ok ([], c)
    | x :: _ =>
      if x == '%' then do
        let (bs, c) ← percentBytes (fuel + 1) c
        match String.fromUTF8? ⟨bs.toArray⟩ with
        | none => refuse .badTag
        | some s =>
          let (t, c) ← tagChars fuel c
          .ok (s.toList ++ t, c)
      else if isTagChar x then do
        let (t, c) ← tagChars fuel c.next
        .ok (x :: t, c)
      else .ok ([], c)

/-- A part of a tag, which cannot be empty. -/
def tagPart (c : Cursor) : Result (Text × Cursor) := do
  let (t, c) ← tagChars (c.rest.length + 1) c
  if t.isEmpty then refuse .badTag else .ok (t, c)

/-- A handle: an exclamation mark by itself, or a name between two of them. -/
def tagHandle (c : Cursor) : Result (Text × Cursor) :=
  match c.rest with
  | '!' :: ' ' :: _ => .ok (['!'], c.next)
  | '!' :: r =>
    let name := r.takeWhile isNameChar
    if (r.drop name.length).head? = some '!' then
      .ok ("!" ++ name ++ "!", c.forward (name.length + 2))
    else refuse .badTag
  | _ => refuse .badTag

def tagParts (c : Cursor) : Result (WrittenTag × Cursor) :=
  match c.rest.drop 1 with
  | '<' :: _ => do
    let (t, c) ← tagPart (c.forward 2)
    if c.rest.head? = some '>' then .ok (⟨none, t⟩, c.next) else refuse .badTag
  | r =>
    if atGap r then .ok (⟨none, ['!']⟩, c.next)
    else do
      let word := r.takeWhile fun x => x != ' ' && !isBreak x
      let (handle, c) ← if word.contains '!' then tagHandle c else .ok (['!'], c.next)
      let (t, c) ← tagPart c
      .ok (⟨some handle, t⟩, c)

/-- A tag, after which a blank or a break has to come. -/
def tag (c : Cursor) : Result (WrittenTag × Cursor) := do
  let (t, c) ← tagParts c
  if atSpace c.rest then .ok (t, c) else refuse .badTag

/-! ## Directives -/

def versionNumber (c : Cursor) : Result (Nat × Cursor) :=
  let digits := c.rest.takeWhile Char.isDigit
  match Text.readNatIn? 10 digits with
  | some n => .ok (n, c.forward digits.length)
  | none =>
    if digits.isEmpty then refuse .badDirective else .error (.fault .notANumber)

def versionDirective (c : Cursor) : Result (Directive × Cursor) := do
  let (major, c) ← versionNumber (c.skip (· == ' '))
  if c.rest.head? ≠ some '.' then refuse .badDirective
  else
    let (_, c) ← versionNumber c.next
    if atSpace c.rest then .ok (.version major, c) else refuse .badDirective

def handleDirective (c : Cursor) : Result (Directive × Cursor) := do
  let (name, c) ← tagHandle (c.skip (· == ' '))
  if c.rest.head? ≠ some ' ' then refuse .badDirective
  else
    let (stem, c) ← tagPart (c.skip (· == ' '))
    if atSpace c.rest then .ok (.handle name stem, c) else refuse .badDirective

/-- A directive, at its percent sign, to the end of its line. -/
def directive (c : Cursor) : Result (Directive × Cursor) := do
  let name := c.next.rest.takeWhile isNameChar
  let c := c.forward (name.length + 1)
  if name.isEmpty || !atSpace c.rest then refuse .badDirective
  else
    let (d, c) ←
      if name = "YAML" then versionDirective c
      else if name = "TAG" then handleDirective c
      else .ok (.other, c.skip fun x => !isBreak x)
    match c.endLine? with
    | some c => .ok (d, c)
    | none => refuse .badDirective

end FilterBar.Yaml
