import FilterBar.Query.Token
import FilterBar.Query.Filter

/-!
# What a query selects

Reading a query never fails: each token is an `Entry` with its `Reading`, and a token that is not
understood stays in the list as refused. The filters among the entries, applied in order, give the
`Selection`: the picked values, each once, and the last setting of every display option.

A value may be picked with both signs on the same axis; who uses the selection decides which of
the two wins.
-/

namespace FilterBar.Query

/-! ## Entries -/

inductive Reading where
  /-- There is no colon after at least one character of a key. -/
  | keyless
  /-- Nothing but blanks is left of the value. -/
  | valueless (key : Text)
  | refused (key value : Text)
  | accepted (key value : Text) (filter : Filter)
deriving DecidableEq

namespace Reading

def key? : Reading → Option Text
  | keyless => none
  | valueless k => some k
  | refused k _ => some k
  | accepted k _ _ => some k

/-- The value without quotes. It is empty where it is missing. -/
def value? : Reading → Option Text
  | keyless => none
  | valueless _ => some []
  | refused _ v => some v
  | accepted _ v _ => some v

def filter? : Reading → Option Filter
  | accepted _ _ f => some f
  | _ => none

/-- Reads one token. The key is compared without case. -/
def ofToken (token : Text) : Reading :=
  let (sign, body) := Sign.split token
  match Text.cut? ':' body with
  | none => keyless
  | some (key, written) =>
    if key.isEmpty then keyless
    else
      let value := Text.strip (unquote written)
      if value.isEmpty then valueless key
      else
        match Filter.ofKey? sign (Text.lower key) value with
        | some f => accepted key value f
        | none => refused key value

end Reading

/-- A token of a query with its reading. -/
structure Entry where
  raw : Text
  reading : Reading
deriving DecidableEq

namespace Entry

def ofToken (token : Text) : Entry := ⟨token, .ofToken token⟩

def filter? (e : Entry) : Option Filter := e.reading.filter?

def isValid (e : Entry) : Bool := e.filter?.isSome

end Entry

def entries (query : Text) : List Entry := (tokens query).map Entry.ofToken

theorem entries_raw (query : Text) : (entries query).map Entry.raw = tokens query := by
  simp [entries, Entry.ofToken, Function.comp_def]

/-! ## Selections -/

/-- The picks of a query, each once, and its display options. An option that no filter sets is
`none`. -/
structure Selection where
  picks : List Pick := []
  focused : Option Text := none
  loners : Option Bool := none
  sources : Option Bool := none
  colorBy : Option ColorMode := none
  groupBy : Option GroupMode := none
  labelBy : Option LabelMode := none
deriving DecidableEq

namespace Selection

def empty : Selection := {}

def add (s : Selection) : Filter → Selection
  | .pick p => { s with picks := if p ∈ s.picks then s.picks else s.picks ++ [p] }
  | .loners shown => { s with loners := some shown }
  | .sources shown => { s with sources := some shown }
  | .color mode => { s with colorBy := some mode }
  | .group none => s
  | .group (some mode) => { s with groupBy := some mode }
  | .label mode => { s with labelBy := some mode }
  | .focus id => { s with focused := some id }

def bucket (s : Selection) (axis : Axis) (sign : Sign) : List Text :=
  (s.picks.filter fun p => p.axis = axis ∧ p.sign = sign).map Pick.value

theorem mem_picks_add {s : Selection} {f : Filter} {p : Pick} :
    p ∈ (s.add f).picks ↔ p ∈ s.picks ∨ f = .pick p := by
  cases f with
  | pick q =>
    by_cases h : q ∈ s.picks
    · simp only [add, h, if_true, Filter.pick.injEq]
      exact ⟨.inl, fun h => h.elim id fun e => e ▸ ‹q ∈ s.picks›⟩
    · simp [add, h, eq_comm]
  | group m => cases m <;> simp [add]
  | _ => simp [add]

theorem mem_bucket {s : Selection} {axis : Axis} {sign : Sign} {value : Text} :
    value ∈ s.bucket axis sign ↔ ⟨axis, sign, value⟩ ∈ s.picks := by
  simp only [bucket, List.mem_map, List.mem_filter, decide_eq_true_eq]
  constructor
  · rintro ⟨⟨a, b, c⟩, ⟨h, rfl, rfl⟩, rfl⟩
    exact h
  · exact fun h => ⟨_, ⟨h, rfl, rfl⟩, rfl⟩

def ofEntries (es : List Entry) : Selection := (es.filterMap Entry.filter?).foldl add empty

end Selection

def selection (query : Text) : Selection := Selection.ofEntries (entries query)

end FilterBar.Query
