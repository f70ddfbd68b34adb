import FilterBar.Catalog
import FilterBar.Value
import FilterBar.Disk
import FilterBar.Yaml.Read

/-!
# Reading a catalog

A registry file lists the catalog of one snapshot. It has one list under each key; a key that is
missing stands for an empty list. An item is a text or a number, or a mapping with an id and
perhaps a label.

- `Catalog.ofEntries`: the catalog of a mapping.
- `Catalog.load`: the catalog of a file.

Most of what keeps a catalog from being read is an `Error`, which is reported. A number that is
too long to be written and the faults of a document are not provided for.
-/

namespace FilterBar.Catalog

inductive Error where
  | notAList (name kind : Text)
  | invalidEntry (name : Text) (v : Value)
  | unreadable (path : Path) (cause : OpenFailure)
  | invalidFile (path : Path) (cause : Yaml.Error)
  | notAMapping (path : Path)

inductive Failure where
  | error (e : Error)
  | fault (f : Fault)

def Error.message : Error → Text
  | .notAList name kind => "'" ++ name ++ "' must be a list, got " ++ kind
  | .invalidEntry name v => "Invalid entry in '" ++ name ++ "': " ++ v.shown
  | .unreadable path cause =>
    "Cannot read registry file " ++ path.text ++ ": " ++ cause.message (Text.shown path.text)
  | .invalidFile path cause => "Invalid registry file " ++ path.text ++ ": " ++ cause.message
  | .notAMapping path => "Registry file " ++ path.text ++ " must contain a mapping"

/-! ## From a mapping -/

def listUnder (es : Value.Entries) (name : Text) : Except Failure (Option (List Value)) :=
  match (es.get? name).map Value.opened with
  | none | some .null => .ok none
  | some (.list vs) => .ok (some vs)
  | some v => .error (.error (.notAList name v.kindName))

/-- What is made of a value, as long as the value can be written. -/
def written {α : Type} (v : Value) (a : α) : Except Failure α :=
  if v.isWritable then .ok a else .error (.fault .tooManyDigits)

def textOf (v : Value) : Except Failure Text := written v v.asText

/-- The texts under a key. Any value stands for a text. -/
def texts (es : Value.Entries) (name : Text) : Except Failure (List Text) := do
  let vs ← listUnder es name
  (vs.getD []).mapM textOf

/-- The label of an entry with the given id. A label that is empty or zero counts as missing. -/
def labelOf (es : Value.Entries) (id : Text) : Except Failure Text :=
  match es.get? "label" with
  | some v => if v.isTruthy then textOf v else .ok id
  | none => .ok id

def invalid {α : Type} (name : Text) (v : Value) : Except Failure α := do
  let e ← written v (Error.invalidEntry name v)
  .error (.error e)

/-- An item of a list: a text or a number, which is its own label, or a mapping with an id. -/
def item (name : Text) (v : Value) : Except Failure Item :=
  match v.opened with
  | .text _ | .int _ | .bool _ => do
    let t ← textOf v
    .ok ⟨t, t⟩
  | .map es =>
    match Value.Entries.get? es "id" with
    | none => invalid name v
    | some id => do
      let id ← textOf id
      let label ← labelOf es id
      .ok ⟨id, label⟩
  | _ => invalid name v

/-- The text that an entity can be found by, if it has one of its own. -/
def searchTextOf (es : Value.Entries) : Except Failure (Option Text) :=
  match es.get? "search_text" with
  | none | some .null => .ok none
  | some v => (textOf v).map some

/-- An entity: a text, or a mapping with an id. -/
def entity (name : Text) (v : Value) : Except Failure Entity :=
  match v.opened with
  | .text t => .ok ⟨t, t, none⟩
  | .map es =>
    match Value.Entries.get? es "id" with
    | none => invalid name v
    | some id => do
      let id ← textOf id
      let label ← labelOf es id
      let searchText ← searchTextOf es
      .ok ⟨id, label, searchText⟩
  | _ => invalid name v

def items (es : Value.Entries) (name : Text) : Except Failure (List Item) := do
  let vs ← listUnder es name
  (vs.getD []).mapM (item name)

/-- The catalog of a mapping. Of several failures the first in this order counts. -/
def ofEntries (es : Value.Entries) : Except Failure Catalog := do
  let nodeIds ← texts es "node_ids"
  let locations ← texts es "locations"
  let crates ← items es "crates"
  let processes ← items es "processes"
  let kinds ← items es "kinds"
  let modules ← items es "modules"
  let entities ← match ← listUnder es "entities" with
    | none => .ok none
    | some vs => (vs.mapM (entity "entities")).map some
  .ok ⟨nodeIds, locations, crates, processes, kinds, modules, entities⟩

/-! ## From a file -/

/-- The catalog of a registry file. An empty file is an empty catalog. -/
def load (d : Disk) (p : Path) : Except Failure Catalog :=
  if p.holdsZero then .error (.fault .pathHoldsZero)
  else match d.read p with
    | .error cause => .error (.error (.unreadable p cause))
    | .ok t =>
      match Yaml.read t with
      | .error (.error cause) => .error (.error (.invalidFile p cause))
      | .error (.fault f) => .error (.fault f)
      | .ok .null => ofEntries []
      | .ok v => match v.entries? with
        | some es => ofEntries es
        | none => .error (.error (.notAMapping p))

def counts (c : Catalog) : Text :=
  Text.joinWith ", "
    [ Text.ofNat c.nodeIds.length ++ " nodes",
      Text.ofNat c.locations.length ++ " locations",
      Text.ofNat c.crates.length ++ " crates",
      Text.ofNat c.processes.length ++ " processes",
      Text.ofNat c.kinds.length ++ " kinds",
      Text.ofNat c.modules.length ++ " modules" ]

end FilterBar.Catalog
