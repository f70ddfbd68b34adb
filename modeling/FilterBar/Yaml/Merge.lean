import FilterBar.Yaml.Node

/-!
# Merging mappings

A merge key in a mapping stands for the entries of another mapping, or of several. They go before
the entries of its own, so that its own count. The mappings that are merged are merged into first.
A mapping that is merged into itself gives what it has by then.

- `Nodes.merge`: the nodes with the entries of a mapping in place of its merge keys.
-/

namespace FilterBar.Yaml

abbrev Entry := Place × Place

namespace Nodes

def entries (ns : Nodes) (p : Place) : List Entry :=
  match ns.node p with
  | .mapping _ es => es
  | _ => []

def setEntries (ns : Nodes) (p : Place) (es : List Entry) : Nodes :=
  ns.set p (.mapping (ns.node p).tag es)

def isMapping (ns : Nodes) (p : Place) : Bool := ns.node p matches .mapping _ _

def hasTag (ns : Nodes) (tag : Tag) (p : Place) : Bool := (ns.node p).tag = tag

/-- What the first merge key of a mapping merges, and the nodes without that key. -/
def takeMerge? (ns : Nodes) (p : Place) : Option (Place × Nodes) :=
  match (ns.entries p).span fun e => !ns.hasTag .merge e.1 with
  | (before, e :: after) => some (e.2, ns.setEntries p (before ++ after))
  | (_, []) => none

/-- An equals sign that is a key of a mapping is an ordinary key. -/
def settleKeys (ns : Nodes) (es : List Entry) : Nodes :=
  es.foldl (fun ns e =>
    if ns.hasTag .standIn e.1 then ns.set e.1 ((ns.node e.1).withTag .text) else ns) ns

def mergeCount (ns : Nodes) : Nat :=
  ns.list.foldl (fun count n => match n with
    | .mapping _ es => count + es.countP fun e => ns.hasTag .merge e.1
    | _ => count) 0

/-- The nodes after merging into a mapping, with entries that were merged into it already. Each
step takes a merge key away. -/
def mergeInto : Nat → Place → List Entry → Nodes → Except Error Nodes
  | 0, _, _, ns => .ok ns
  | fuel + 1, p, merged, ns =>
    match ns.takeMerge? p with
    | none =>
      let es := merged ++ ns.entries p
      .ok ((ns.setEntries p es).settleKeys es)
    | some (source, ns) => do
      let one (item : Place) (ns : Nodes) : Except Error (List Entry × Nodes) :=
        if ns.isMapping item then do
          let ns ← mergeInto fuel item [] ns
          .ok (ns.entries item, ns)
        else .error .badMerge
      let (es, ns) ← match ns.node source with
        | .sequence _ items =>
          items.foldlM (fun (es, ns) item => do
            let (first, ns) ← one item ns
            .ok (first ++ es, ns)) ([], ns)
        | _ => one source ns
      mergeInto fuel p (merged ++ es) ns

/-- The nodes with the entries of a mapping in place of its merge keys. Of mappings that are merged
together, the entries of a later one go first. `merges` is not less than the number of merge keys. -/
def merge (ns : Nodes) (merges : Nat) (p : Place) : Except Error Nodes :=
  mergeInto (merges + 1) p [] ns

end Nodes

end FilterBar.Yaml
