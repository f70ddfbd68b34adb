import FilterBar.Yaml.Number
import FilterBar.Yaml.Timestamp

/-!
# Tags of a document

The tag of a value says of what kind it is. A scalar without quotes and without a tag has the tag
of the first form that it has.

- `Tag.ofName`: the tag with a full name.
- `Tag.ofPlain`: the tag of a plain scalar.
-/

namespace FilterBar.Yaml

inductive Tag where
  | null
  | bool
  | int
  | float
  | text
  | binary
  | timestamp
  | sequence
  | mapping
  | set
  /-- A sequence of mappings with one key each. -/
  | ordered
  /-- The key whose value is merged into the mapping. -/
  | merge
  /-- The key of the value that a mapping stands for where a scalar is expected. -/
  | standIn
  | unknown
deriving DecidableEq

namespace Tag

def stem : Text := "tag:yaml.org,2002:"

def names : List (Text × Tag) :=
  [ ("null", null), ("bool", bool), ("int", int), ("float", float), ("str", text),
    ("binary", binary), ("timestamp", timestamp), ("seq", sequence), ("map", mapping),
    ("set", set), ("omap", ordered), ("pairs", ordered), ("merge", merge), ("value", standIn) ]

def ofName (t : Text) : Tag :=
  if stem.isPrefixOf t then (names.lookup (t.drop stem.length)).getD unknown else unknown

/-! ## Forms of plain scalars -/

def nulls : List Text := ["", "~", "null", "Null", "NULL"]

def yesAndNo : List Text :=
  [ "yes", "Yes", "YES", "no", "No", "NO", "true", "True", "TRUE", "false", "False", "FALSE",
    "on", "On", "ON", "off", "Off", "OFF" ]

/-- A text without the line feed at its end, which no form looks at. -/
def dropLineFeed (t : Text) : Text :=
  if 1 < t.length && t.getLast? == some '\n' then t.dropLast else t

def ofPlain (t : Text) : Tag :=
  let t := dropLineFeed t
  if nulls.contains t then null
  else if yesAndNo.contains t then bool
  else if isFloatForm t then float
  else if isWholeForm t then int
  else if isTimestampForm t then timestamp
  else if t = "<<" then merge
  else if t = "=" then standIn
  else if t = "&" ∨ t = "!" ∨ t = "*" then unknown
  else text

end Tag

end FilterBar.Yaml
