import FilterBar.Yaml.Tag
import FilterBar.Yaml.Token

/-!
# The nodes of a document

The tokens of a document nest like its collections, and its nodes are read by recursive descent.
Every node has a place of its own, by which the collections around it hold it. An alias is the
place of the node that it names. So a node can be in several collections, and a collection in
itself.

- `Nodes.ofTokens`: the nodes of a document, and the place of the outermost one. An empty document
  is an empty scalar.
-/

namespace FilterBar.Yaml

/-- Where a node is among the nodes of its document. -/
abbrev Place := Nat

/-- A value with its tag, before it is made into what its tag says. -/
inductive Node where
  | scalar (tag : Tag) (t : Text)
  | sequence (tag : Tag) (items : List Place)
  | mapping (tag : Tag) (entries : List (Place × Place))

namespace Node

def nothing : Node := scalar .null []

def tag : Node → Tag
  | scalar tag _ | sequence tag _ | mapping tag _ => tag

def withTag (tag : Tag) : Node → Node
  | scalar _ t => scalar tag t
  | sequence _ items => sequence tag items
  | mapping _ es => mapping tag es

end Node

/-- The nodes of a document, by their places. -/
structure Nodes where
  list : Array Node := #[]

namespace Nodes

def size (ns : Nodes) : Nat := ns.list.size

def node (ns : Nodes) (p : Place) : Node := ns.list[p]?.getD .nothing

def set (ns : Nodes) (p : Place) (n : Node) : Nodes := ⟨ns.list.setIfInBounds p n⟩

def push (ns : Nodes) (n : Node) : Nodes := ⟨ns.list.push n⟩

theorem node_push_size (ns : Nodes) (n : Node) : (ns.push n).node ns.size = n := by
  simp [node, push, size]

theorem node_set_same (ns : Nodes) {p : Place} (h : p < ns.size) (n : Node) :
    (ns.set p n).node p = n := by
  have h : p < ns.list.size := h
  simp [node, set, h]

theorem node_set_ne (ns : Nodes) {p q : Place} (h : p ≠ q) (n : Node) :
    (ns.set p n).node q = ns.node q := by
  simp [node, set, h]

end Nodes

/-! ## Reading tokens -/

/-- The tokens that are left, with what was declared before them. -/
structure Reader where
  tokens : List Token
  /-- What tag handles stand for. -/
  handles : List (Text × Text)
  /-- The nodes that have begun. -/
  nodes : Nodes := {}
  /-- The places of the nodes with an anchor. -/
  anchors : List (Text × Place) := []
  /-- The number of collections around the next node. -/
  depth : Nat := 0

namespace Reader

def drop (r : Reader) (n : Nat) : Reader := { r with tokens := r.tokens.drop n }

/-- Fails at the next token: the scanner came no further, or it was not expected. -/
def fail {α : Type} (r : Reader) : Result α :=
  match r.tokens with
  | .failure f :: _ => .error f
  | [] => refuse .unexpectedEnd
  | _ => refuse .unexpectedToken

def nextIn (found : List Token) (r : Reader) : Bool := r.tokens.head?.any found.contains

def enter (r : Reader) : Reader := { r with depth := r.depth + 1 }

def leave (r : Reader) : Reader := { r with depth := r.depth - 1 }

/-- The depth from which on collections cannot be followed. -/
def deepest : Nat := 485

/-! ### Properties -/

/-- The full name of a tag. An exclamation mark by itself leaves the kind open. -/
def tagName? (r : Reader) (t : WrittenTag) : Result (Option Text) := do
  let name ← match t.handle with
    | none => .ok t.suffix
    | some h => match r.handles.lookup h with
      | some stem => .ok (stem ++ t.suffix)
      | none => refuse (.unknownHandle h)
  .ok (if name = "!" then none else some name)

structure Properties where
  anchor : Option Text := none
  tag : Option WrittenTag := none

/-- An anchor and a tag, each of which may be missing, in any order. -/
def properties (r : Reader) : Properties × Reader :=
  match r.tokens with
  | .anchor a :: .tag t :: _ => (⟨some a, some t⟩, r.drop 2)
  | .tag t :: .anchor a :: _ => (⟨some a, some t⟩, r.drop 2)
  | .anchor a :: _ => (⟨some a, none⟩, r.drop 1)
  | .tag t :: _ => (⟨none, some t⟩, r.drop 1)
  | _ => ({}, r)

/-- Gives a node a place, which an anchor may name. -/
def place (r : Reader) (anchor : Option Text) (n : Node) : Place × Reader :=
  let p := r.nodes.size
  let named := anchor.map fun a => (a, p)
  (p, { r with nodes := r.nodes.push n, anchors := named.toList ++ r.anchors })

/-- Puts the node of a collection that has been read at its place. -/
def finish (r : Reader) (p : Place) (n : Node) : Reader :=
  { r.leave with nodes := r.nodes.set p n }

/-! ### Nodes -/

inductive Layout where
  | flowSequence
  | flowMapping
  | sequence
  | mapping
  /-- A sequence whose dashes stand at the column of the key before it. -/
  | flushSequence
deriving DecidableEq

/-- The collection that begins here, and the reader after the token that opens it. -/
def opening? (block flush : Bool) (r : Reader) : Option (Layout × Reader) :=
  match r.tokens with
  | .flowSequenceStart :: _ => some (.flowSequence, r.drop 1)
  | .flowMappingStart :: _ => some (.flowMapping, r.drop 1)
  | .sequenceStart :: _ => if block then some (.sequence, r.drop 1) else none
  | .mappingStart :: _ => if block then some (.mapping, r.drop 1) else none
  | .entry :: _ => if flush then some (.flushSequence, r) else none
  | _ => none

/-- The scalar that begins here, if one does. After an anchor or a tag it may be empty. -/
def scalar? (given : Properties) (tag : Option Text) (r : Reader) : Option (Node × Reader) :=
  let named := tag.map Tag.ofName
  match r.tokens with
  | .scalar t plain :: _ =>
    let tag := named.getD (if plain || given.tag.isSome then Tag.ofPlain t else .text)
    some (.scalar tag t, r.drop 1)
  | .failure _ :: _ => none
  | _ =>
    if given.anchor.isNone && given.tag.isNone then none
    else some (.scalar (named.getD .null) [], r)

/-- The reader after the comma that separates entries. -/
def afterComma (first : Bool) (r : Reader) : Result Reader :=
  if first then .ok r
  else match r.tokens with
    | .comma :: _ => .ok (r.drop 1)
    | _ => r.fail

mutual

/-- The node that begins here. `block` allows block collections, and `flush` a sequence whose
dashes stand at the column of the key before it. -/
def node (block flush : Bool) : Nat → Reader → Result (Place × Reader)
  | 0, _ => refuse .unexpectedEnd
  | fuel + 1, r =>
    match r.tokens with
    | .aliasTo a :: _ => match r.anchors.lookup a with
      | some p => .ok (p, r.drop 1)
      | none => refuse (.unknownAlias a)
    | _ => do
      let (given, r) := r.properties
      let tag ← match given.tag with
        | some t => r.tagName? t
        | none => .ok none
      if let some a := given.anchor then
        if (r.anchors.lookup a).isSome then refuse (.repeatedAnchor a)
      match r.opening? block flush with
      | some (layout, r) =>
        if deepest < r.depth then .error (.fault .nestedTooDeep)
        else
          let (p, r) := r.place given.anchor .nothing
          let (n, r) ← collection layout tag fuel r.enter
          .ok (p, r.finish p n)
      | none =>
        match r.scalar? given tag with
        | some (n, r) => .ok (r.place given.anchor n)
        | none => r.fail

def collection (layout : Layout) (tag : Option Text) : Nat → Reader → Result (Node × Reader)
  | 0, _ => refuse .unexpectedEnd
  | fuel + 1, r =>
    let sequenceTag := (tag.map Tag.ofName).getD .sequence
    let mappingTag := (tag.map Tag.ofName).getD .mapping
    match layout with
    | .flowSequence =>
      (flowSequence true fuel r).map fun (ps, r) => (.sequence sequenceTag ps, r)
    | .sequence => (sequence fuel r).map fun (ps, r) => (.sequence sequenceTag ps, r)
    | .flushSequence =>
      (flushSequence fuel r).map fun (ps, r) => (.sequence sequenceTag ps, r)
    | .flowMapping =>
      (flowMapping true fuel r).map fun (es, r) => (.mapping mappingTag es, r)
    | .mapping => (mapping fuel r).map fun (es, r) => (.mapping mappingTag es, r)

/-- The node that begins here, or nothing if one of the given tokens comes instead. -/
def nodeUnless (found : List Token) (block flush : Bool) :
    Nat → Reader → Result (Place × Reader)
  | 0, _ => refuse .unexpectedEnd
  | fuel + 1, r => if r.nextIn found then .ok (r.place none .nothing) else node block flush fuel r

def sequence : Nat → Reader → Result (List Place × Reader)
  | 0, _ => refuse .unexpectedEnd
  | fuel + 1, r =>
    match r.tokens with
    | .blockEnd :: _ => .ok ([], r.drop 1)
    | .entry :: _ => do
      let (p, r) ← nodeUnless [.entry, .blockEnd] true false fuel (r.drop 1)
      let (ps, r) ← sequence fuel r
      .ok (p :: ps, r)
    | _ => r.fail

/-- The entries of a sequence that has no block of its own. -/
def flushSequence : Nat → Reader → Result (List Place × Reader)
  | 0, _ => refuse .unexpectedEnd
  | fuel + 1, r =>
    match r.tokens with
    | .entry :: _ => do
      let (p, r) ←
        nodeUnless [.entry, .key, .value, .blockEnd] true false fuel (r.drop 1)
      let (ps, r) ← flushSequence fuel r
      .ok (p :: ps, r)
    | _ => .ok ([], r)

/-- The value after a key, if there is a colon. -/
def valueUnless (found : List Token) (block : Bool) :
    Nat → Reader → Result (Place × Reader)
  | 0, _ => refuse .unexpectedEnd
  | fuel + 1, r =>
    match r.tokens with
    | .value :: _ => nodeUnless found block block fuel (r.drop 1)
    | .failure f :: _ => .error f
    | _ => .ok (r.place none .nothing)

def mapping : Nat → Reader → Result (List (Place × Place) × Reader)
  | 0, _ => refuse .unexpectedEnd
  | fuel + 1, r =>
    match r.tokens with
    | .blockEnd :: _ => .ok ([], r.drop 1)
    | .key :: _ => do
      let (k, r) ← nodeUnless [.key, .value, .blockEnd] true true fuel (r.drop 1)
      let (v, r) ← valueUnless [.key, .value, .blockEnd] true fuel r
      let (es, r) ← mapping fuel r
      .ok ((k, v) :: es, r)
    | _ => r.fail

/-- The entries of a flow sequence up to its end, each after the first with a comma before it. An
entry with a colon is a mapping of one key. -/
def flowSequence (first : Bool) : Nat → Reader → Result (List Place × Reader)
  | 0, _ => refuse .unexpectedEnd
  | fuel + 1, r =>
    match r.tokens with
    | .flowSequenceEnd :: _ => .ok ([], r.drop 1)
    | _ => do
      let r ← r.afterComma first
      match r.tokens with
      | .flowSequenceEnd :: _ => .ok ([], r.drop 1)
      | .key :: _ =>
        let (k, r) ←
          nodeUnless [.value, .comma, .flowSequenceEnd] false false fuel (r.drop 1).enter
        let (v, r) ← valueUnless [.comma, .flowSequenceEnd] false fuel r
        let (p, r) := r.leave.place none (.mapping .mapping [(k, v)])
        let (ps, r) ← flowSequence false fuel r
        .ok (p :: ps, r)
      | _ =>
        let (p, r) ← node false false fuel r
        let (ps, r) ← flowSequence false fuel r
        .ok (p :: ps, r)

/-- The entries of a flow mapping up to its end. A key without a colon has no value. -/
def flowMapping (first : Bool) : Nat → Reader → Result (List (Place × Place) × Reader)
  | 0, _ => refuse .unexpectedEnd
  | fuel + 1, r =>
    match r.tokens with
    | .flowMappingEnd :: _ => .ok ([], r.drop 1)
    | _ => do
      let r ← r.afterComma first
      match r.tokens with
      | .flowMappingEnd :: _ => .ok ([], r.drop 1)
      | .key :: _ =>
        let (k, r) ←
          nodeUnless [.value, .comma, .flowMappingEnd] false false fuel (r.drop 1)
        let (v, r) ← valueUnless [.comma, .flowMappingEnd] false fuel r
        let (es, r) ← flowMapping false fuel r
        .ok ((k, v) :: es, r)
      | _ =>
        let (k, r) ← node false false fuel r
        let (v, r) := r.place none .nothing
        let (es, r) ← flowMapping false fuel r
        .ok ((k, v) :: es, r)

end

/-! ### Documents -/

/-- The directives before a document. Handles are declared once, and so is the version. -/
def directives (r : Reader) (version : Bool) : List Token → Result Reader
  | .directive (.version major) :: ts =>
    if version || major ≠ 1 then refuse .badDirective else r.directives true ts
  | .directive (.handle name stem) :: ts =>
    if (r.handles.lookup name).isSome then refuse .badDirective
    else { r with handles := (name, stem) :: r.handles }.directives version ts
  | .directive .other :: ts => r.directives version ts
  | ts => .ok { r with tokens := ts }

/-- The handles that need not be declared. -/
def knownHandles : List (Text × Text) := [("!", "!"), ("!!", Tag.stem)]

/-- Whether the content of a document ends before it begins. -/
def contentEnds : List Token → Bool
  | [] => true
  | .directive _ :: _ | .documentStart :: _ | .documentEnd :: _ => true
  | _ => false

def document (ts : List Token) : Result (Place × Reader) :=
  let fuel := 6 * ts.length + 6
  match ts with
  | [] => .ok (Reader.place { tokens := [], handles := [] } none .nothing)
  | .directive _ :: _ | .documentStart :: _ => do
    let r ← directives { tokens := [], handles := [] } false ts
    let r := { r with handles := r.handles ++ knownHandles }
    match r.tokens with
    | .documentStart :: ts =>
      if contentEnds ts then .ok ((r.drop 1).place none .nothing)
      else node true false fuel (r.drop 1)
    | _ => r.fail
  | _ => node true false fuel { tokens := ts, handles := knownHandles }

/-- After a document only marks of its end may come. -/
def ends : List Token → Result Unit
  | [] => .ok ()
  | .documentEnd :: ts => ends ts
  | ts => match ts.dropWhile fun t => t matches .directive _ with
    | .failure f :: _ => .error f
    | _ => refuse .secondDocument

end Reader

def Nodes.ofTokens (ts : List Token) : Result (Place × Nodes) := do
  let (p, r) ← Reader.document ts
  Reader.ends r.tokens
  .ok (p, r.nodes)

end FilterBar.Yaml
