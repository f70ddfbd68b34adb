import FilterBar.Query.Quoting
import FilterBar.Text.Case

/-!
# Filters

A token `key:value`, with or without a sign, that is understood is a filter. A signed axis key
picks a value to include or exclude; the other keys set one display option each.

- `Axis`, `Sign`, `Pick`: what a signed filter says.
- `ColorMode`, `GroupMode`, `LabelMode`: the values that display options take.
- `Filter.ofKey?`: the filter that a sign, a lower-case key and a value spell.
- `isTemplate`: values such as `<id>` that stand for a value still to be typed. No pick and no
  focus holds one (`ofKey?_pick_not_template`, `ofKey?_focus_not_template`).
-/

namespace FilterBar.Query

/-! ## Signed filters -/

inductive Sign where
  | plus
  | minus
deriving DecidableEq

namespace Sign

def mark : Sign → Char
  | .plus => '+'
  | .minus => '-'

def all : List Sign := [.plus, .minus]

/-- The sign that a text begins with, if any, and the text after it. -/
def split : Text → Option Sign × Text
  | '+' :: r => (some .plus, r)
  | '-' :: r => (some .minus, r)
  | t => (none, t)

/-- How a sign is written before a key. Without a sign nothing is written. -/
def written : Option Sign → Text
  | some s => [s.mark]
  | none => []

theorem written_split (t : Text) : written (split t).1 ++ (split t).2 = t := by
  unfold split
  split <;> rfl

end Sign

/-- What a node of the graph can be picked by. -/
inductive Axis where
  | node
  | location
  | crate
  | process
  | kind
  | module
deriving DecidableEq

namespace Axis

def all : List Axis := [.node, .location, .crate, .process, .kind, .module]

def key : Axis → Text
  | .node => "node"
  | .location => "location"
  | .crate => "crate"
  | .process => "process"
  | .kind => "kind"
  | .module => "module"

/-- The name of the sets that hold the values picked by the axis. -/
def setName : Axis → Text
  | .node => "node_ids"
  | .location => "locations"
  | .crate => "crates"
  | .process => "processes"
  | .kind => "kinds"
  | .module => "modules"

/-- The axis of a lower-case key. A node also answers to `id` and a location to `source`. -/
def ofKey? (key : Text) : Option Axis :=
  if key = "id" then some .node
  else if key = "source" then some .location
  else all.find? fun a => a.key == key

theorem ofKey?_key (a : Axis) : ofKey? a.key = some a := by
  cases a <;> rfl

end Axis

structure Pick where
  axis : Axis
  sign : Sign
  value : Text
deriving DecidableEq

/-! ## Display options -/

inductive ColorMode where
  | process
  | crate
deriving DecidableEq

inductive GroupMode where
  | process
  | crate
deriving DecidableEq

inductive LabelMode where
  | process
  | crate
  | location
deriving DecidableEq

namespace ColorMode

def all : List ColorMode := [.process, .crate]

def name : ColorMode → Text
  | .process => "process"
  | .crate => "crate"

def ofName? (name : Text) : Option ColorMode := all.find? fun m => m.name == name

end ColorMode

namespace GroupMode

def all : List GroupMode := [.process, .crate]

def name : GroupMode → Text
  | .process => "process"
  | .crate => "crate"

/-- The value that asks for no grouping. -/
def noneName : Text := "none"

def ofName? (name : Text) : Option GroupMode := all.find? fun m => m.name == name

end GroupMode

namespace LabelMode

def all : List LabelMode := [.process, .crate, .location]

def name : LabelMode → Text
  | .process => "process"
  | .crate => "crate"
  | .location => "location"

def ofName? (name : Text) : Option LabelMode := all.find? fun m => m.name == name

end LabelMode

/-- A yes or no that may be spelt in three ways. -/
def readFlag? (value : Text) : Option Bool :=
  if value = "on" ∨ value = "true" ∨ value = "yes" then some true
  else if value = "off" ∨ value = "false" ∨ value = "no" then some false
  else none

def readSwitch? (value : Text) : Option Bool :=
  if value = "on" then some true else if value = "off" then some false else none

def switchName (on : Bool) : Text := if on then "on" else "off"

theorem readSwitch?_switchName (on : Bool) : readSwitch? (switchName on) = some on := by
  cases on <;> rfl

/-! ## Templates -/

/-- Whether a value is one line between angle brackets. One line feed after it does not count. -/
def isTemplate (value : Text) : Bool :=
  match dropFinalLineFeed value with
  | '<' :: r => r.getLast? == some '>' && !r.contains '\n'
  | _ => false

/-! ## Filters -/

inductive Filter where
  | pick (p : Pick)
  | loners (shown : Bool)
  | sources (shown : Bool)
  | color (mode : ColorMode)
  /-- Grouping by a mode, or the request for none, which leaves an earlier mode in force. -/
  | group (mode : Option GroupMode)
  | label (mode : LabelMode)
  | focus (id : Text)
deriving DecidableEq

namespace Filter

/-- The display option of a lower-case key. The key `source` is one only without a sign. -/
def ofControl? (sign : Option Sign) (key value : Text) : Option Filter :=
  if key = "loners" then (readFlag? value).map .loners
  else if key = "source" ∧ sign = none then (readSwitch? value).map .sources
  else if key = "colorby" then (ColorMode.ofName? value).map .color
  else if key = "groupby" then
    if value = GroupMode.noneName then some (.group none)
    else (GroupMode.ofName? value).map fun m => .group (some m)
  else if key = "labelby" then (LabelMode.ofName? value).map .label
  else if key = "focus" ∨ key = "subgraph" then
    if isTemplate value then none else some (.focus value)
  else none

/-- The filter that a sign, a lower-case key and a value spell. -/
def ofKey? (sign : Option Sign) (key value : Text) : Option Filter :=
  match sign, Axis.ofKey? key with
  | some s, some a => if isTemplate value then none else some (.pick ⟨a, s, value⟩)
  | _, _ => ofControl? sign key value

theorem ofControl?_ne_pick (sign : Option Sign) (key value : Text) (p : Pick) :
    ofControl? sign key value ≠ some (.pick p) := by
  unfold ofControl?
  repeat' split
  all_goals simp

theorem ofKey?_pick_not_template {sign : Option Sign} {key value : Text} {p : Pick}
    (h : ofKey? sign key value = some (.pick p)) : isTemplate p.value = false := by
  unfold ofKey? at h
  split at h
  · split at h
    · simp at h
    · simp only [Option.some.injEq, pick.injEq] at h
      subst h
      simpa using ‹¬ isTemplate value = true›
  · exact absurd h (ofControl?_ne_pick _ _ _ _)

theorem ofKey?_focus_not_template {sign : Option Sign} {key value id : Text}
    (h : ofKey? sign key value = some (.focus id)) : isTemplate id = false := by
  unfold ofKey? at h
  split at h
  · split at h <;> simp at h
  · unfold ofControl? at h
    repeat' split at h
    all_goals simp_all

end Filter

end FilterBar.Query
