import FilterBar.Query.Selection
import FilterBar.Suggestion.Completion
import FilterBar.Cut

/-!
# Queries as documents

What an editor shows about a query that is kept as a document: a diagnostic for each token that is
no filter, completions for the token before the cursor, and help on the key under the pointer.
Places are given by line and column; a line ends at a line feed.
-/

namespace FilterBar.Document

open Query (Axis Sign Entry Reading)

/-! ## Places -/

structure Place where
  line : Int
  column : Int
deriving DecidableEq

/-- The greatest line or column that a place can be told by. -/
def Place.greatest : Int := 2147483647

def Place.isTellable (p : Place) : Bool :=
  0 ≤ p.line && p.line ≤ greatest && 0 ≤ p.column && p.column ≤ greatest

structure Span where
  first : Place
  last : Place
deriving DecidableEq

/-- The number of characters after the last line feed, if there is a line feed. -/
def lengthOfLastLine? (t : Text) : Option Nat :=
  if t.contains '\n' then some (t.reverse.takeWhile (· != '\n')).length else none

/-- The place of an offset. An offset past the end counts on in the last line, and a negative one
is counted from the end. -/
def placeOf (source : Text) (offset : Int) : Place :=
  let before := Cut.before offset source
  let column := match lengthOfLastLine? before with
    | none => offset
    | some n => offset - (before.length - n)
  ⟨before.count '\n', column⟩

def placeOf? (source : Text) (offset : Int) : Option Place :=
  let p := placeOf source offset
  if p.isTellable then some p else none

/-! ## Keys and their help -/

def help? (key : Text) : Option Text :=
  let modes (names : List Text) : Text := Text.joinWith " | " names
  if key = "node" then
    some "Signed axis: `+node:<id>` includes only, `-node:<id>` excludes entity ids"
  else if key = "id" then some "Alias of `node`"
  else if key = "location" then
    some "Signed axis: include/exclude source locations (`file:line`)"
  else if key = "source" then
    some "`source:on|off` toggles source display; `+source:`/`-source:` alias `location`"
  else if key = "crate" then some "Signed axis: include/exclude crates"
  else if key = "process" then some "Signed axis: include/exclude processes"
  else if key = "kind" then some "Signed axis: include/exclude entity kinds"
  else if key = "module" then some "Signed axis: include/exclude module paths"
  else if key = "loners" then
    some "Show (`on`/`true`/`yes`) or hide (`off`/`false`/`no`) unconnected nodes"
  else if key = "colorby" then
    some ("Node coloring: " ++ modes (Query.ColorMode.all.map Query.ColorMode.name))
  else if key = "groupby" then
    some ("Subgraph grouping: " ++
      modes (Query.GroupMode.all.map Query.GroupMode.name ++ [Query.GroupMode.noneName]))
  else if key = "labelby" then
    some ("Node labels: " ++ modes (Query.LabelMode.all.map Query.LabelMode.name))
  else if key = "focus" then some "Focus the subgraph around one node id"
  else if key = "subgraph" then some "Alias of `focus`"
  else none

/-- The key of the token at a column of a line, with what is said about it. -/
def hover? (line : Text) (column : Int) : Option Text :=
  match (Query.runs line).find? fun run =>
      decide ((run.start : Int) ≤ column ∧ column < run.start + run.token.length) with
  | none => none
  | some run =>
    match Text.cut? ':' (run.token.dropWhile fun c => c == '+' || c == '-') with
    | none => none
    | some (key, _) => (help? (Text.lower key)).map fun said => "**" ++ key ++ "**: " ++ said

/-! ## Diagnostics -/

/-- What keeps a token from being a filter. -/
inductive Problem where
  | notAFilter (raw : Text)
  | missingValue (key : Text)
  | needsSign (key : Text)
  | templateValue (value : Text)
  | templateFocus (value : Text)
  | invalidValue (key value : Text)
  | unknownKey (key : Text)
deriving DecidableEq

namespace Problem

def message : Problem → Text
  | notAFilter raw => "'" ++ raw ++ "' is not a key:value filter"
  | missingValue key => "Missing value for '" ++ key ++ "'"
  | needsSign key => "'" ++ key ++ "' needs a + (include) or - (exclude) sign"
  | templateValue value => "Replace the placeholder " ++ value ++ " with a value"
  | templateFocus value => "Replace the placeholder " ++ value ++ " with a node id"
  | invalidValue key value => "Invalid value '" ++ value ++ "' for '" ++ key ++ "'"
  | unknownKey key => "Unknown filter key '" ++ key ++ "'"

def ofKey (signed : Bool) (key value : Text) : Problem :=
  let low := Text.lower key
  let isAxis := (Axis.ofKey? low).isSome && (signed || low ≠ "source")
  if isAxis && !signed then needsSign key
  else if isAxis && Query.isTemplate value then templateValue value
  else if (low = "focus" ∨ low = "subgraph") ∧ Query.isTemplate value then templateFocus value
  else if (help? low).isSome then invalidValue key value
  else unknownKey key

def ofEntry (e : Entry) : Problem :=
  let signed := (Sign.split e.raw).1.isSome
  match e.reading with
  | .keyless => notAFilter e.raw
  | .valueless key => missingValue key
  | .refused key value => ofKey signed key value
  | .accepted key value _ => ofKey signed key value

end Problem

structure Diagnostic where
  span : Span
  problem : Problem
deriving DecidableEq

/-- One diagnostic for each token that is no filter, in order. -/
def diagnostics (source : Text) : List Diagnostic :=
  (Query.runs source).filterMap fun run =>
    let e := Entry.ofToken run.token
    if e.isValid then none
    else some
      { span := ⟨placeOf source run.start, placeOf source (run.start + run.token.length)⟩
        problem := .ofEntry e }

/-! ## Completions -/

/-- The token that ends at a column of a line, as far as it has been typed. -/
def fragmentAt (line : Text) (column : Int) : Text :=
  let typed := Cut.before column line
  match typed.getLast? with
  | none => []
  | some c => if Text.isBlank c then [] else ((Query.tokens typed).getLast?).getD []

structure Completion where
  suggestion : Suggestion
  /-- The place among the completions, from 0. -/
  rank : Nat
  fragment : Text
  span : Span
deriving DecidableEq

namespace Completion

def newText (c : Completion) : Text := c.suggestion.inserted

/-- Whether completion goes on after this one. -/
def isStage (c : Completion) : Bool := FilterBar.isStage c.newText

def sortText (c : Completion) : Text := Text.ofNatPadded 4 c.rank

def filterText (c : Completion) : Text :=
  if c.fragment.isEmpty then c.suggestion.token else c.fragment

end Completion

/-- The completions of the token before the cursor. The token itself does not count as one that
the query has already. -/
def completions (source line : Text) (cursor : Place) (catalog : Catalog)
    (limit entityLimit : Int) : List Completion :=
  let fragment := fragmentAt line cursor.column
  let existing := (Query.tokens source).erase fragment
  let span : Span := ⟨⟨cursor.line, cursor.column - fragment.length⟩, cursor⟩
  (Request.suggestions ⟨fragment, existing, catalog, limit, entityLimit⟩).mapIdx fun rank s =>
    ⟨s, rank, fragment, span⟩

/-! ## Lines -/

/-- Whether a character ends a line of a document that is shown. -/
def endsLine (c : Char) : Bool :=
  let n := c.toNat
  (0x0A ≤ n && n ≤ 0x0D) || (0x1C ≤ n && n ≤ 0x1E) || n == 0x85 || n == 0x2028 || n == 0x2029

/-- The lines of a document with their ends. A carriage return and a line feed after it end a line
together. -/
def lines : Text → List Text
  | [] => []
  | '\r' :: '\n' :: r => ['\r', '\n'] :: lines r
  | c :: r =>
    if endsLine c then [c] :: lines r
    else match lines r with
      | [] => [[c]]
      | l :: ls => (c :: l) :: ls

/-- A line without the carriage returns and line feeds at its end. -/
def chomp (line : Text) : Text := Text.dropEnd (fun c => c == '\r' || c == '\n') line

end FilterBar.Document
