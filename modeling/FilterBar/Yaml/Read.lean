import FilterBar.Value
import FilterBar.Yaml.Base64
import FilterBar.Yaml.Merge

/-!
# Reading a YAML document

The nodes of a document are made into values by their tags. Collections are filled in the order in
which they are come across, so those of one level before those inside of them. Of several failures
the first counts.

A mapping takes the later value of a key that is written twice. What is merged into it counts as
written before its own keys.

- `read`: the value of a document, which is nothing if the document is empty.
-/

namespace FilterBar.Yaml

/-! ## Scalars -/

/-- The text of a scalar. A mapping stands for the value of an equals sign among its keys, which may
be such a mapping again. -/
def Nodes.scalarText (ns : Nodes) : Nat → Place → Result Text
  | 0, _ => .error (.fault .nestedTooDeep)
  | fuel + 1, p =>
    match ns.node p with
    | .scalar _ t => .ok t
    | .sequence _ _ => refuse .unfitTag
    | .mapping _ es =>
      match es.find? fun e => ns.hasTag .standIn e.1 with
      | some e => ns.scalarText fuel e.2
      | none => refuse .unfitTag

def readYesOrNo (t : Text) : Except Fault Value :=
  let t := Text.lower t
  if t = "yes" ∨ t = "true" ∨ t = "on" then .ok (.bool true)
  else if t = "no" ∨ t = "false" ∨ t = "off" then .ok (.bool false)
  else .error .notYesOrNo

/-- A value that only a fault keeps from being made. -/
def orFault : Except Fault Value → Result Value := Except.mapError .fault

def readScalar (tag : Tag) (t : Text) : Result Value :=
  match tag with
  | .null => .ok .null
  | .text => .ok (.text t)
  | .bool => orFault (readYesOrNo t)
  | .int => orFault ((readWhole t).map .int)
  | .float => orFault ((readFloat t).map .float)
  | .timestamp => orFault (readTimestamp (Tag.dropLineFeed t))
  | .binary => ((readBytes t).map .bytes).mapError .error
  | _ => refuse .unknownTag

/-- The value of a node with the tag of a scalar. No mapping stands for a timestamp. -/
def Nodes.scalar (ns : Nodes) (p : Place) : Result Value := do
  let tag := (ns.node p).tag
  let t ← ns.scalarText (ns.size + 1) p
  if tag = .timestamp && ns.isMapping p then .error (.fault .timestampNotText)
  else readScalar tag t

/-! ## Collections -/

/-- What a node is made into. A collection holds what is inside of it by its place. -/
inductive Part where
  | scalar (v : Value)
  | list (items : List Place)
  /-- The entries of an ordered mapping. -/
  | pairs (entries : List Entry)
  | map (entries : List (Value × Place))
  | set (entries : List (Value × Place))

def Part.shape : Part → Value.Shape
  | list _ | pairs _ => .list
  | _ => .map

/-- A document that is partly made into values. -/
structure Making where
  nodes : Nodes
  /-- What the nodes were made into, by their places. -/
  parts : Array (Option Part)
  /-- The collections that were come across. They are filled in this order. -/
  collections : Array Place := #[]
  /-- The number of merge keys in the document. -/
  merges : Nat

namespace Making

def ofNodes (ns : Nodes) : Making :=
  { nodes := ns, parts := Array.replicate ns.size none, merges := ns.mergeCount }

def part? (m : Making) (p : Place) : Option Part := m.parts[p]?.join

def put (m : Making) (p : Place) (part : Part) : Making :=
  { m with parts := m.parts.setIfInBounds p (some part) }

/-- Comes across a collection, which is empty until it is filled. -/
def begin (m : Making) (p : Place) (part : Part) : Making :=
  { m.put p part with collections := m.collections.push p }

/-- Comes across a node, perhaps not for the first time. -/
def visit (m : Making) (p : Place) : Result Making :=
  if (m.part? p).isSome then .ok m
  else match (m.nodes.node p).tag with
    | .sequence => .ok (m.begin p (.list []))
    | .ordered => .ok (m.begin p (.pairs []))
    | .mapping => .ok (m.begin p (.map []))
    | .set => .ok (m.begin p (.set []))
    | .merge | .standIn | .unknown => refuse .unknownTag
    | _ => do
      let v ← m.nodes.scalar p
      .ok (m.put p (.scalar v))

/-- The only entry of a mapping, as an ordered mapping has it. -/
def pairAt (m : Making) (p : Place) : Result Entry :=
  match m.nodes.node p with
  | .mapping _ [e] => .ok e
  | _ => refuse .unfitTag

/-- Comes across the entries of an ordered mapping, each of which is a mapping of one key. -/
def visitPairs : Making → List Place → Result (List Entry × Making)
  | m, [] => .ok ([], m)
  | m, p :: ps => do
    let (k, v) ← m.pairAt p
    let m ← m.visit k
    let m ← m.visit v
    let (es, m) ← visitPairs m ps
    .ok ((k, v) :: es, m)

/-- Comes across the entries of a mapping, and adds them to those before them. A key is looked at
before its value. -/
def visitEntries : Making → List (Value × Place) → List Entry → Result (List (Value × Place) × Making)
  | m, made, [] => .ok (made, m)
  | m, made, (k, v) :: es => do
    let m ← m.visit k
    match m.part? k with
    | some (.scalar key) =>
      let m ← m.visit v
      visitEntries m (Value.insertKey made key v) es
    | _ => refuse .unfitKey

/-- The entries of a mapping, after merging. -/
def visitMapping (m : Making) (p : Place) : Result (List (Value × Place) × Making) := do
  let ns ← (m.nodes.merge m.merges p).mapError .error
  { m with nodes := ns }.visitEntries [] (ns.entries p)

def fill (m : Making) (p : Place) : Result Making :=
  match m.nodes.node p with
  | .sequence .sequence items => do
    let m ← items.foldlM visit m
    .ok (m.put p (.list items))
  | .sequence .ordered items => do
    let (es, m) ← m.visitPairs items
    .ok (m.put p (.pairs es))
  | .mapping .mapping _ => do
    let (es, m) ← m.visitMapping p
    .ok (m.put p (.map es))
  | .mapping .set _ => do
    let (es, m) ← m.visitMapping p
    .ok (m.put p (.set es))
  | _ => refuse .unfitTag

/-- Fills the collections that were come across, from a number on. Every place is come across once
at most. -/
def fillFrom : Nat → Nat → Making → Result Making
  | 0, _, m => .ok m
  | fuel + 1, n, m =>
    match m.collections[n]? with
    | none => .ok m
    | some p => do fillFrom fuel (n + 1) (← m.fill p)

end Making

/-- What the nodes of a document are made into, from the outermost one on. -/
def Nodes.make (ns : Nodes) (root : Place) : Result Making := do
  let m ← (Making.ofNodes ns).visit root
  m.fillFrom ns.size 0

/-! ## Values -/

/-- The values of the collections that do not hold themselves, as far as they were put together. -/
abbrev Assembled := Array (Option Value)

namespace Making

/-- A value, and the places of the collections around it that it refers to. -/
abbrev Open := Value × List Place

/-- A collection that refers to one around it holds itself, and so has a name. -/
def named (name : Value.Name) : Open → Open
  | (v, []) => (v, [])
  | (v, ps) => (.cyclic name v, ps)

def assemble (m : Making) : Nat → List Place → Place → StateM Assembled Open
  | 0, _, _ => pure (.null, [])
  | fuel + 1, around, p => do
    let part := (m.part? p).getD (.scalar .null)
    if around.contains p then return (.outer ⟨p, none⟩ part.shape, [p])
    if let some v := (← get)[p]?.join then return (v, [])
    let inside := m.assemble fuel (p :: around)
    let (v, ps) ← match part with
      | .scalar v => pure (v, [])
      | .list items => do
        let vs ← items.mapM inside
        pure (.list (vs.map Prod.fst), vs.flatMap Prod.snd)
      | .pairs es => do
        let vs ← es.zipIdx.mapM fun ((k, v), i) => do
          let (k, ps) ← inside k
          let (v, qs) ← inside v
          return named ⟨p, some i⟩ (.pair k v, ps ++ qs)
        pure (.list (vs.map Prod.fst), vs.flatMap Prod.snd)
      | .map es => do
        let vs ← es.mapM fun (k, v) => do
          let (v, ps) ← inside v
          return ((k, v), ps)
        pure (.map (vs.map Prod.fst), vs.flatMap Prod.snd)
      | .set es => pure (.set (es.map fun e => (e.1, .null)), [])
    if ps.isEmpty then modify (·.setIfInBounds p (some v))
    let (v, ps) := named ⟨p, none⟩ (v, ps)
    return (v, ps.filter (· != p))

end Making

def read (t : Text) : Result Value := do
  let (root, ns) ← Nodes.ofTokens (Token.scan t)
  let m ← ns.make root
  let ((v, _), _) := (m.assemble (ns.size + 1) [] root).run (Array.replicate ns.size none)
  .ok v

end FilterBar.Yaml
