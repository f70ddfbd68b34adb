import FilterBar.Suggestion
import FilterBar.Suggestion.Canonical
import FilterBar.Catalog
import FilterBar.Match

/-!
# Completing a fragment

The candidates for a fragment that is being typed depend on how far it has got: nothing, a sign, a
key, or a key with the beginning of a value. They come from the fixed suggestions and the catalog,
ranked by what has been typed. A candidate is offered once, and not if the query has its filter
already.

- `Request.candidates`: the candidates of a fragment.
- `offer`: the candidates that are new, each once.
- `Request.suggestions`: the two together.
-/

namespace FilterBar

open Query (Axis Sign ColorMode GroupMode LabelMode)

/-- A fragment with all that its completion depends on. The bounds count from the end of the
ranked list when they are negative. -/
structure Request where
  fragment : Text := []
  existing : List Text := []
  catalog : Catalog := {}
  limit : Int := Suggestion.defaultLimit
  entityLimit : Int := Suggestion.defaultEntityLimit

namespace Suggestion

/-! ## What a candidate is found by -/

def keyTarget (s : Suggestion) : Text :=
  s.token.dropWhile (fun c => c == '+' || c == '-') ++ " " ++ s.description

def entityTarget (e : Entity) : Text := e.id ++ " " ++ e.label ++ " " ++ e.searchText.getD []

def itemTarget (i : Item) : Text := i.id ++ " " ++ i.label

/-! ## Values of each key -/

/-- A location as it is written in a query. A location with a colon is always quoted. -/
def writtenLocation (location : Text) : Text :=
  if Query.isBare location && location.contains ':' then Query.enquote location
  else Query.quote location

def ofNode (sign id : Text) : Suggestion :=
  ⟨sign ++ "node:" ++ Query.quote id, verb sign ++ " node " ++ id, none⟩

def ofLocation (sign location : Text) : Suggestion :=
  ⟨sign ++ "location:" ++ writtenLocation location, verb sign ++ " location " ++ location, none⟩

def ofItem (sign : Text) (axis : Axis) (i : Item) : Suggestion :=
  ⟨sign ++ axis.key ++ ":" ++ Query.quote i.id,
    verb sign ++ " " ++ axis.key ++ " " ++ i.label, none⟩

def focusEntity (e : Entity) : Suggestion :=
  ⟨"focus:" ++ Query.quote e.id, "Focus " ++ e.label, none⟩

def focusNode (id : Text) : Suggestion :=
  ⟨"focus:" ++ Query.quote id, "Focus node " ++ id, none⟩

def ofEntity (e : Entity) : List Suggestion :=
  [ focusEntity e,
    ⟨"+node:" ++ Query.quote e.id, "Include only " ++ e.label, none⟩,
    ⟨"-node:" ++ Query.quote e.id, "Exclude " ++ e.label, none⟩ ]

def ofSwitch (key : Text) (describe : Bool → Text) (value : Text) (limit : Int) :
    List Suggestion :=
  (Match.best Query.switchName value limit [true, false]).map fun on =>
    ⟨key ++ ":" ++ Query.switchName on, describe on, none⟩

/-- The values of a display option, with what they do. -/
def ofModes (key purpose : Text) (names : List Text) (value : Text) (limit : Int) :
    List Suggestion :=
  (Match.best id value limit names).map fun name =>
    ⟨key ++ ":" ++ name,
      if name = GroupMode.noneName then "Disable grouping" else purpose ++ " " ++ name, none⟩

end Suggestion

namespace Request

open Suggestion

def keyCandidates (r : Request) (fragment : Text) : List Suggestion :=
  match Sign.split fragment with
  | (some sign, rest) =>
    Match.best keyTarget (Text.lower rest) r.limit (axisKeys [sign.mark])
  | (none, _) =>
    if fragment.isEmpty then signs ++ Cut.before r.limit controls
    else
      let query := Text.lower fragment
      (Match.best entityTarget query r.entityLimit (r.catalog.entities.getD [])).flatMap ofEntity ++
        Match.best keyTarget query r.limit keys

/-- The values of an axis in the catalog that match what has been typed of one. -/
def axisCandidates (r : Request) (sign : Text) (axis : Axis) (value : Text) : List Suggestion :=
  let items (listed : List Item) :=
    (Match.best itemTarget value r.limit listed).map (ofItem sign axis)
  match axis with
  | .node => (Match.best id value r.limit r.catalog.nodeIds).map (ofNode sign)
  | .location => (Match.best id value r.limit r.catalog.locations).map (ofLocation sign)
  | .crate => items r.catalog.crates
  | .process => items r.catalog.processes
  | .kind => items r.catalog.kinds
  | .module => items r.catalog.modules

/-- The nodes that can be focused, by entity if the catalog lists any. -/
def focusCandidates (r : Request) (value : Text) : List Suggestion :=
  match r.catalog.entities with
  | some (e :: es) => (Match.best entityTarget value r.limit (e :: es)).map focusEntity
  | _ => (Match.best id value r.limit r.catalog.nodeIds).map focusNode

/-- The values of a key that needs no sign, if there is one of this name. -/
def controlCandidates? (r : Request) (key value : Text) : Option (List Suggestion) :=
  if key = "loners" then some (ofSwitch key lonersText value r.limit)
  else if key = "source" then some (ofSwitch key sourcesText value r.limit)
  else if key = "colorby" then
    some (ofModes "colorBy" "Color nodes by" (ColorMode.all.map ColorMode.name) value r.limit)
  else if key = "groupby" then
    some (ofModes "groupBy" "Group by"
      (GroupMode.all.map GroupMode.name ++ [GroupMode.noneName]) value r.limit)
  else if key = "labelby" then
    some (ofModes "labelBy" "Label nodes by" (LabelMode.all.map LabelMode.name) value r.limit)
  else if key = "focus" ∨ key = "subgraph" then some (r.focusCandidates value)
  else none

/-- The candidates for a key with the beginning of a value. An unknown key is matched against all
keys that could stand there. -/
def valueCandidates (r : Request) (fragment : Text) (sign : Option Sign) (rest key written : Text) :
    List Suggestion :=
  let key := Text.lower key
  let value := Text.lower (Text.trim (· == '"') written)
  match sign, Axis.ofKey? key with
  | some s, some axis => r.axisCandidates [s.mark] axis value
  | _, _ =>
    match r.controlCandidates? key value, sign with
    | some found, _ => found
    | none, some s => Match.best keyTarget (Text.lower rest) r.limit (axisKeys [s.mark])
    | none, none => Match.best keyTarget (Text.lower fragment) r.limit keys

def candidates (r : Request) : List Suggestion :=
  let fragment := Text.strip r.fragment
  let (sign, rest) := Sign.split fragment
  match Text.cut? ':' rest with
  | none => r.keyCandidates fragment
  | some (key, written) => r.valueCandidates fragment sign rest key written

end Request

/-! ## What is offered -/

/-- The candidates whose canonical form is not in `taken` and whose token is not in `seen` or
offered before. -/
def offerAfter (taken : List Text) (seen : List Text) : List Suggestion → List Suggestion
  | [] => []
  | s :: r =>
    if seen.contains s.token || taken.contains (Query.canonical s.token) then
      offerAfter taken seen r
    else s :: offerAfter taken (s.token :: seen) r

/-- The candidates that say something new, each once. -/
def offer (existing : List Text) (candidates : List Suggestion) : List Suggestion :=
  offerAfter (existing.map Query.canonical) [] candidates

def Request.suggestions (r : Request) : List Suggestion := offer r.existing r.candidates

theorem mem_of_mem_offerAfter {taken seen : List Text} {cs : List Suggestion} {s : Suggestion}
    (h : s ∈ offerAfter taken seen cs) :
    s ∈ cs ∧ s.token ∉ seen ∧ Query.canonical s.token ∉ taken := by
  induction cs generalizing seen with
  | nil => simp [offerAfter] at h
  | cons c cs ih =>
    simp only [offerAfter] at h
    split at h
    · exact ⟨List.mem_cons_of_mem _ (ih h).1, (ih h).2⟩
    · rename_i hc
      simp only [Bool.or_eq_true, List.contains_iff_mem, not_or] at hc
      rcases List.mem_cons.1 h with rfl | h
      · exact ⟨List.mem_cons_self, hc⟩
      · have hs := ih h
        exact ⟨List.mem_cons_of_mem _ hs.1, fun hm => hs.2.1 (List.mem_cons_of_mem _ hm), hs.2.2⟩

/-- No token is offered twice. -/
theorem offerAfter_tokens_nodup (taken seen : List Text) (cs : List Suggestion) :
    ((offerAfter taken seen cs).map Suggestion.token).Nodup := by
  induction cs generalizing seen with
  | nil => simp [offerAfter]
  | cons c cs ih =>
    simp only [offerAfter]
    split
    · exact ih seen
    · rw [List.map_cons, List.nodup_cons]
      refine ⟨fun hm => ?_, ih _⟩
      obtain ⟨s, hs, he⟩ := List.mem_map.1 hm
      exact (mem_of_mem_offerAfter hs).2.1 (he ▸ List.mem_cons_self)

end FilterBar
