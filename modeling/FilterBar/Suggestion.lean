import FilterBar.Query.Filter

/-!
# Suggestions

A suggestion shows a token with a description. Accepting it inserts the token, or the shorter text
of a stage: a sign or a key with its colon, which is typed on.

- `axisKeys`, `signs`, `controls`: the fixed suggestions.
- `Suggestion.lines`: a list of suggestions as it is printed.
-/

namespace FilterBar

structure Suggestion where
  token : Text
  description : Text
  /-- What is inserted instead of the token. -/
  stage : Option Text := none
deriving DecidableEq

namespace Suggestion

def defaultLimit : Nat := 12

def defaultEntityLimit : Nat := 3

/-- The text that accepting the suggestion inserts. An empty stage counts as none. -/
def inserted (s : Suggestion) : Text :=
  match s.stage with
  | some t => if t.isEmpty then s.token else t
  | none => s.token

end Suggestion

/-- Whether a text is a sign or ends in a colon, so that more has to follow it. -/
def isStage (t : Text) : Bool := t == ['+'] || t == ['-'] || t.getLast? == some ':'

namespace Suggestion

open Query (Axis Sign ColorMode GroupMode LabelMode)

/-! ## Fixed suggestions -/

/-- What stands for a value of the axis that is still to be typed. -/
def template : Axis → Text
  | .node => "<id>"
  | .location => "<src>"
  | .crate => "<name>"
  | .process => "<id>"
  | .kind => "<kind>"
  | .module => "<path>"

def noun : Axis → Text
  | .node => "nodes by entity id"
  | .location => "source locations"
  | .crate => "crates"
  | .process => "processes"
  | .kind => "kinds"
  | .module => "modules"

/-- What a filter with this sign does. Any text but a plus excludes. -/
def verb (sign : Text) : Text :=
  if sign = ['+'] then "Include only matching" else "Exclude matching"

def axisKeys (sign : Text) : List Suggestion :=
  Axis.all.map fun a =>
    { token := sign ++ a.key ++ ":" ++ template a
      description := verb sign ++ " " ++ noun a
      stage := some (sign ++ a.key ++ ":") }

def signs : List Suggestion :=
  [ ⟨"+", "Include only filter", none⟩,
    ⟨"-", "Exclude everything matching this filter", none⟩ ]

def lonersText (on : Bool) : Text :=
  if on then "Show unconnected nodes" else "Hide unconnected nodes"

def sourcesText (on : Bool) : Text :=
  if on then "Show source locations on nodes" else "Hide source locations on nodes"

/-- The keys without a sign, with their values where these are fixed. -/
def controls : List Suggestion :=
  [ ⟨"focus:<id>", "Focus the subgraph around a node", some "focus:"⟩,
    ⟨"loners:on", lonersText true, none⟩,
    ⟨"loners:off", lonersText false, none⟩,
    ⟨"source:on", sourcesText true, none⟩,
    ⟨"source:off", sourcesText false, none⟩,
    ⟨"colorBy:process", "Color nodes by process", none⟩,
    ⟨"colorBy:crate", "Color nodes by crate", none⟩,
    ⟨"groupBy:process", "Group by process subgraphs", none⟩,
    ⟨"groupBy:crate", "Group by crate subgraphs", none⟩,
    ⟨"labelBy:process", "Label nodes by process", none⟩,
    ⟨"labelBy:crate", "Label nodes by crate", none⟩,
    ⟨"labelBy:location", "Label nodes by source location", none⟩ ]

def keys : List Suggestion := axisKeys "+" ++ axisKeys "-" ++ controls

/-! ## Printing -/

/-- One line for each suggestion, the descriptions in a column of their own and the active one
marked. -/
def lines (items : List Suggestion) (active : Option Int) : List Text :=
  if items.isEmpty then ["(no suggestions)"]
  else
    let width := items.foldl (fun w s => max w s.token.length) 0
    items.mapIdx fun i s =>
      (if active = some (i : Int) then ">" else " " : Text) ++ " " ++ Text.padEnd width s.token ++
        " - " ++ s.description

end Suggestion

end FilterBar
