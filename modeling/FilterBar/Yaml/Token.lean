import FilterBar.Yaml.Property
import FilterBar.Yaml.Scalar.Plain
import FilterBar.Yaml.Scalar.Quoted
import FilterBar.Yaml.Scalar.Block

/-!
# Tokens of a YAML document

The scanner turns a document into tokens and makes its layout explicit: it opens a block where the
indentation grows and closes it where the indentation falls back. Whether a scalar is a key shows
only at the colon after it, so the scanner remembers where a key could begin and puts the mark for
it there afterwards.

- `Token.scan`: the tokens of a document.
-/

namespace FilterBar.Yaml

inductive Token where
  | documentStart
  | documentEnd
  | directive (d : Directive)
  | sequenceStart
  | mappingStart
  | blockEnd
  /-- The dash before an entry of a sequence. -/
  | entry
  | key
  | value
  | flowSequenceStart
  | flowSequenceEnd
  | flowMappingStart
  | flowMappingEnd
  /-- The comma in a flow collection. -/
  | comma
  | anchor (name : Text)
  | aliasTo (name : Text)
  | tag (t : WrittenTag)
  | scalar (t : Text) (plain : Bool)
  /-- The scanner came no further. What stands before this may be read all the same. -/
  | failure (f : Failure)
deriving DecidableEq

/-! ## The scanner -/

/-- Where a key could begin: the number of tokens before it, and whether the indentation requires
a key there. -/
structure PossibleKey where
  before : Nat
  required : Bool
  index : Nat
  line : Nat
  column : Nat

structure Scanner where
  cursor : Cursor
  /-- The tokens so far. -/
  tokens : Array Token := #[]
  /-- The columns of the open blocks, innermost first. -/
  blocks : List Nat := []
  /-- The possible key on each level of flow collections, innermost first, below it the one
  outside of them. -/
  keys : List (Option PossibleKey) := [none]
  /-- Whether a key may begin here. -/
  keyAllowed : Bool := true

namespace Scanner

def inFlow (s : Scanner) : Bool := 1 < s.keys.length

def push (s : Scanner) (t : Token) : Scanner := { s with tokens := s.tokens.push t }

def take (s : Scanner) (n : Nat) (t : Token) : Scanner :=
  { s with tokens := s.tokens.push t, cursor := s.cursor.forward n }

def allowKey (s : Scanner) (allowed : Bool) : Scanner := { s with keyAllowed := allowed }

/-- Whether the innermost block is indented by less than `column`. -/
def indentsTo (s : Scanner) (column : Nat) : Bool :=
  match s.blocks with
  | [] => true
  | b :: _ => b < column

def closeBlocks (column : Nat) (s : Scanner) : Scanner :=
  if s.inFlow then s
  else
    let closed := s.blocks.takeWhile (column < ·)
    { s with
      tokens := s.tokens ++ closed.map fun _ => Token.blockEnd
      blocks := s.blocks.drop closed.length }

/-- Closes all blocks, unless a flow collection is open. -/
def closeAll (s : Scanner) : Scanner :=
  if s.inFlow then s
  else { s with tokens := s.tokens ++ s.blocks.map fun _ => Token.blockEnd, blocks := [] }

/-- Gives up the possible key of the innermost level. -/
def dropKey (s : Scanner) : Result Scanner :=
  match s.keys with
  | some k :: ks => if k.required then refuse .missingColon else .ok { s with keys := none :: ks }
  | _ => .ok s

/-- Notes that a key may begin with the next token. -/
def noteKey (s : Scanner) : Result Scanner :=
  if !s.keyAllowed then .ok s
  else do
    let c := s.cursor
    let required := !s.inFlow && s.blocks.head? == some c.column
    let s ← s.dropKey
    let key : PossibleKey := ⟨s.tokens.size, required, c.index, c.line, c.column⟩
    .ok { s with keys := some key :: s.keys.tail }

/-- Gives up the possible keys that are not on this line or too far back. -/
def expireKeys (s : Scanner) : Result Scanner := do
  let keys ← s.keys.mapM fun key? =>
    match key? with
    | none => .ok none
    | some k =>
      if k.line != s.cursor.line || 1024 < s.cursor.index - k.index then
        if k.required then refuse .missingColon else .ok none
      else .ok (some k)
  .ok { s with keys := keys }

/-- To the next token: past blanks, comments and line breaks. -/
def skipGap : Nat → Scanner → Scanner
  | 0, s => s
  | fuel + 1, s =>
    let c := s.cursor.skip (· == ' ')
    let c := if c.rest.head? == some '#' then c.skip fun x => !isBreak x else c
    match c.rest with
    | x :: _ =>
      if isBreak x then
        skipGap fuel { s with cursor := c.next, keyAllowed := s.keyAllowed || !s.inFlow }
      else { s with cursor := c }
    | [] => { s with cursor := c }

/-- Opens a block at a column if that is further in, by a token at the given place. -/
def openBlock (s : Scanner) (column place : Nat) (t : Token) : Scanner :=
  if s.indentsTo column then
    { s with
      blocks := column :: s.blocks
      tokens := s.tokens.insertIdxIfInBounds place t }
  else s

def documentMark (s : Scanner) (t : Token) : Result Scanner := do
  let s ← s.closeAll.dropKey
  .ok ((s.allowKey false).take 3 t)

def openFlow (s : Scanner) (t : Token) : Result Scanner := do
  let s ← s.noteKey
  .ok (({ s with keys := none :: s.keys }.allowKey true).take 1 t)

/-- An end without a beginning is left for the reader of the tokens to refuse. -/
def closeFlow (s : Scanner) (t : Token) : Result Scanner := do
  let s ← s.dropKey
  let keys := match s.keys with
    | _ :: k :: ks => k :: ks
    | ks => ks
  .ok (({ s with keys := keys }.allowKey false).take 1 t)

def comma (s : Scanner) : Result Scanner := do
  let s ← s.dropKey
  .ok ((s.allowKey true).take 1 .comma)

def entry (s : Scanner) : Result Scanner := do
  let s ← if s.inFlow then .ok s
    else if s.keyAllowed then .ok (s.openBlock s.cursor.column s.tokens.size .sequenceStart)
    else refuse (.misplacedMark '-')
  let s ← s.dropKey
  .ok ((s.allowKey true).take 1 .entry)

/-- A key that is marked by a question mark. -/
def markedKey (s : Scanner) : Result Scanner := do
  let s ← if s.inFlow then .ok s
    else if s.keyAllowed then .ok (s.openBlock s.cursor.column s.tokens.size .mappingStart)
    else refuse (.misplacedMark '?')
  let s ← s.dropKey
  .ok ((s.allowKey !s.inFlow).take 1 .key)

def value (s : Scanner) : Result Scanner := do
  match s.keys with
  | some k :: ks =>
    let place := k.before
    let s := { s with
      keys := none :: ks
      tokens := s.tokens.insertIdxIfInBounds place .key }
    let s := if s.inFlow then s else s.openBlock k.column place .mappingStart
    .ok ((s.allowKey false).take 1 .value)
  | _ =>
    let s ← if s.inFlow then .ok s
      else if s.keyAllowed then .ok (s.openBlock s.cursor.column s.tokens.size .mappingStart)
      else refuse (.misplacedMark ':')
    let s ← s.dropKey
    .ok ((s.allowKey !s.inFlow).take 1 .value)

def quoted (s : Scanner) (fuel : Nat) (double : Bool) : Result Scanner := do
  let s ← s.noteKey
  let (t, c) ← quotedScalar double fuel s.cursor.next
  .ok { (s.allowKey false).push (.scalar t false) with cursor := c }

def plain (s : Scanner) (fuel : Nat) : Result Scanner := do
  let s ← s.noteKey
  let indent := match s.blocks with
    | [] => 0
    | b :: _ => b + 1
  let (t, c, ended) := plainScalar s.inFlow indent fuel s.cursor false
  .ok { (s.allowKey ended).push (.scalar t true) with cursor := c }

/-- An anchor, an alias or a tag, with which a key may begin. -/
def property {α : Type} (s : Scanner) (read : Cursor → Result (α × Cursor)) (token : α → Token) :
    Result Scanner := do
  let s ← s.noteKey
  let (a, c) ← read s.cursor
  .ok { (s.allowKey false).push (token a) with cursor := c }

def directiveLine (s : Scanner) : Result Scanner := do
  let s ← s.closeAll.dropKey
  let (d, c) ← directive s.cursor
  .ok { (s.allowKey false).push (.directive d) with cursor := c }

/-- A block scalar cannot be a key, but a key may come next. -/
def block (s : Scanner) (folded : Bool) : Result Scanner := do
  let s ← s.dropKey
  let least := match s.blocks with
    | [] => 1
    | b :: _ => b + 1
  let (t, c) ← blockScalar folded least s.cursor.next
  .ok { (s.allowKey true).push (.scalar t false) with cursor := c }

/-- The scanner after the next token, if there is one. The fuel has to be more than the number of
characters that are left. -/
def next? (s : Scanner) (fuel : Nat) : Result (Option Scanner) := do
  let s := s.skipGap fuel
  let s ← s.expireKeys
  let s := s.closeBlocks s.cursor.column
  let flow := s.inFlow
  match s.cursor.rest with
  | [] => .ok none
  | c :: r =>
    let found ←
      if c == '%' && s.cursor.column == 0 then s.directiveLine
      else if s.cursor.atMark "---" then s.documentMark .documentStart
      else if s.cursor.atMark "..." then s.documentMark .documentEnd
      else match c with
      | '[' => s.openFlow .flowSequenceStart
      | '\x7b' => s.openFlow .flowMappingStart
      | ']' => s.closeFlow .flowSequenceEnd
      | '\x7d' => s.closeFlow .flowMappingEnd
      | ',' => s.comma
      | '-' => if atGap r then s.entry else s.plain fuel
      | '?' =>
        if flow || atGap r then s.markedKey else s.plain fuel
      | ':' =>
        if flow || atGap r then s.value else s.plain fuel
      | '\'' => s.quoted fuel false
      | '"' => s.quoted fuel true
      | '*' => s.property (fun c => anchorName c.next) .aliasTo
      | '&' => s.property (fun c => anchorName c.next) .anchor
      | '!' => s.property tag .tag
      | '|' => if flow then refuse (.noToken c) else s.block false
      | '>' => if flow then refuse (.noToken c) else s.block true
      | _ => if "\t#%@`".toList.contains c then refuse (.noToken c) else s.plain fuel
    .ok (some found)

/-- The number of tokens that can be read although the scanner comes no further: before a possible
key it is not known whether a mapping begins. -/
def settled (s : Scanner) : Nat :=
  let pending := s.keys.filterMap fun key? => key?.filter fun k =>
    k.line == s.cursor.line && s.cursor.index - k.index ≤ 1024
  (pending.map PossibleKey.before).foldl min s.tokens.size

def stop (s : Scanner) (f : Failure) : List Token := s.tokens.toList.take s.settled ++ [.failure f]

def close (s : Scanner) : Result Scanner := do
  let s ← (s.skipGap (s.cursor.rest.length + 1)).expireKeys
  s.closeAll.dropKey

/-- All tokens from here on. Every token takes a character at least. -/
def finish : Nat → Scanner → List Token
  | 0, s => s.stop (.error .unexpectedEnd)
  | fuel + 1, s =>
    match s.next? (fuel + 1) with
    | .ok (some s) => finish fuel s
    | .ok none =>
      match s.close with
      | .ok s => s.tokens.toList
      | .error f => s.stop f
    | .error f => s.stop f

end Scanner

/-- The tokens of a document. A byte order mark at its beginning is passed over. -/
def Token.scan (t : Text) : List Token :=
  match t.find? fun c => !isPrintableInYaml c with
  | some c => [.failure (.error (.unprintable c))]
  | none =>
    let c : Cursor := { rest := t }
    let c := if t.head? == some '\ufeff' then c.next else c
    Scanner.finish (t.length + 2) { cursor := c }

end FilterBar.Yaml
