import FilterBar.Text

/-!
# Catalogs

A catalog lists what one snapshot of the graph holds, for completion to choose from: node ids,
source locations, and the items of each named axis. It may list entities too, which can be found
by any text that describes them.
-/

namespace FilterBar

structure Item where
  id : Text
  label : Text
deriving DecidableEq

/-- An item with a text of its own that it can be found by. -/
structure Entity where
  id : Text
  label : Text
  searchText : Option Text := none
deriving DecidableEq

structure Catalog where
  nodeIds : List Text := []
  locations : List Text := []
  crates : List Item := []
  processes : List Item := []
  kinds : List Item := []
  modules : List Item := []
  entities : Option (List Entity) := none
deriving DecidableEq

def Catalog.empty : Catalog := {}

end FilterBar
