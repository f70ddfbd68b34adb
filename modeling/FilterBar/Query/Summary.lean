import FilterBar.Query.Selection

/-!
# Summary of a query

The lines that tell a person what a query says: each token with a mark that shows whether it is a
filter, the picked values by axis and sign in order of code points, and the display options.
-/

namespace FilterBar.Query

def sortTexts (ts : List Text) : List Text := ts.mergeSort fun a b => decide (¬ b < a)

def Entry.line (e : Entry) : Text :=
  "  [" ++ (if e.isValid then "ok " else "ERR" : Text) ++ "] " ++ e.raw

namespace Selection

def bucketLine? (s : Selection) (axis : Axis) (sign : Sign) : Option Text :=
  let values := s.bucket axis sign
  let verb : Text := match sign with
    | .plus => "include "
    | .minus => "exclude "
  if values.isEmpty then none
  else some (verb ++ axis.setName ++ ": " ++ Text.joinWith ", " (sortTexts values))

def bucketLines (s : Selection) : List Text :=
  Axis.all.flatMap fun axis => Sign.all.filterMap fun sign => s.bucketLine? axis sign

def optionLine? (name : Text) (value : Option Text) : Option Text :=
  value.map fun v => name ++ ": " ++ v

def optionLines (s : Selection) : List Text :=
  [ optionLine? "focused_node_id" s.focused,
    optionLine? "show_loners" (s.loners.map switchName),
    optionLine? "show_source" (s.sources.map switchName),
    optionLine? "color_by" (s.colorBy.map ColorMode.name),
    optionLine? "group_by" (s.groupBy.map GroupMode.name),
    optionLine? "label_by" (s.labelBy.map LabelMode.name) ].filterMap id

end Selection

def summary (query : Text) : List Text :=
  let es := entries query
  let s := Selection.ofEntries es
  if es.isEmpty then ["(empty filter)"]
  else es.map Entry.line ++ s.bucketLines ++ s.optionLines

end FilterBar.Query
