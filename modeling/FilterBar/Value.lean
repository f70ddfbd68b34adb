import FilterBar.Text.Quoted
import FilterBar.Text.Numeral
import FilterBar.Calendar
import FilterBar.Scatter

/-!
# Values of settings and catalogs

Settings and catalogs come from files and from JSON as trees of values. A mapping keeps the order
in which its keys were first written; a key that is written again takes the later value.

A collection may hold itself, perhaps further inside. Such a collection has a name, and the name
stands for it inside of it.

- `Value.Entries.get?`, `Value.Entries.put`: the value under a key, and setting it.
- `Value.opened`: a collection whose items can be looked at by themselves.
- `Value.isTruthy`: whether a value counts as given.
- `Value.shown`, `Value.asText`: a value as a message shows it, and the text it stands for.
-/

namespace FilterBar

/-- What a collection that holds itself is known by: its place in a document and, for an entry of
an ordered mapping, its number there. -/
structure Value.Name where
  place : Nat
  item : Option Nat := none
deriving DecidableEq

/-- How a collection is written around its items. -/
inductive Value.Shape where
  | list
  | pair
  | map
deriving DecidableEq

inductive Value where
  | null
  | bool (b : Bool)
  | int (n : Int)
  | float (x : Float)
  | text (t : Text)
  | day (d : Day)
  | moment (m : Moment)
  | bytes (bs : List UInt8)
  | list (vs : List Value)
  /-- A key with its value, as an entry of an ordered mapping. -/
  | pair (k v : Value)
  | map (entries : List (Value × Value))
  /-- The members of a set, as the keys of a mapping to nothing. -/
  | set (entries : List (Value × Value))
  /-- A collection that holds itself, with the name that stands for it inside. -/
  | cyclic (name : Value.Name) (v : Value)
  /-- The collection with this name, which this one is inside of. -/
  | outer (name : Value.Name) (shape : Value.Shape)
deriving Inhabited

abbrev Value.Entries := List (Value × Value)

namespace Value

/-! ## Mappings -/

def isKey (name : Text) : Value → Bool
  | text t => t == name
  | _ => false

def Entries.get? (entries : Entries) (name : Text) : Option Value :=
  (entries.find? fun e => e.1.isKey name).map Prod.snd

/-- The entries with a textual key set to a value, in its place if it is there already. -/
def Entries.put (entries : Entries) (name : Text) (v : Value) : Entries :=
  match entries with
  | [] => [(.text name, v)]
  | e :: es => if e.1.isKey name then (e.1, v) :: es else e :: Entries.put es name v

/-- The whole number that a key counts as. -/
def number? : Value → Option Int
  | bool b => some (if b then 1 else 0)
  | int n => some n
  | _ => none

/-- Whether two scalars are one key. Numbers are compared by value: a yes counts as one, and what
is no number is the same key as any other that is none. -/
def sameKey : Value → Value → Bool
  | null, null => true
  | text t, text u => t == u
  | day d, day e => d == e
  | moment m, moment n => m.same n
  | bytes bs, bytes cs => bs == cs
  | float x, float y => x == y || (x.isNaN && y.isNaN)
  | float x, v => v.number?.any (Decimal.isInteger x)
  | v, float y => v.number?.any (Decimal.isInteger y)
  | v, w => match v.number?, w.number? with
    | some m, some n => m == n
    | _, _ => false

/-- The entries with a key set, in its place if it is there already. What stands under a key may be
anything. -/
def insertKey {α : Type} (entries : List (Value × α)) (k : Value) (a : α) : List (Value × α) :=
  match entries with
  | [] => [(k, a)]
  | e :: es => if e.1.sameKey k then (e.1, a) :: es else e :: insertKey es k a

theorem Entries.get?_put_same (entries : Entries) (name : Text) (v : Value) :
    (entries.put name v).get? name = some v := by
  induction entries with
  | nil => simp [put, get?, isKey]
  | cons e es ih =>
    by_cases h : e.1.isKey name = true
    · simp [put, get?, h]
    · simp only [put, h, if_false, get?, List.find?_cons, Bool.false_eq_true]
      simpa [get?] using ih

theorem Entries.get?_put_ne (entries : Entries) {name other : Text} (h : name ≠ other) (v : Value) :
    (entries.put name v).get? other = entries.get? other := by
  induction entries with
  | nil => simp [put, get?, isKey, h]
  | cons e es ih =>
    by_cases he : e.1.isKey name = true
    · have ho : e.1.isKey other = false := by
        cases hk : e.1 <;> simp_all [isKey]
      simp [put, get?, he, ho]
    · simp only [put, he, if_false, get?, List.find?_cons, Bool.false_eq_true]
      cases e.1.isKey other <;> simp_all [get?]

/-! ## Collections that hold themselves -/

mutual

/-- A value in which a collection takes the place of its name. Inside of a collection with the same
name the name stands for that one. -/
def unroll (name : Name) (whole : Value) : Value → Value
  | list vs => list (unrollAll name whole vs)
  | pair k v => pair (unroll name whole k) (unroll name whole v)
  | map es => map (unrollEntries name whole es)
  | set es => set (unrollEntries name whole es)
  | cyclic inner v => if inner = name then cyclic inner v else cyclic inner (unroll name whole v)
  | outer inner shape => if inner = name then whole else outer inner shape
  | v => v

def unrollAll (name : Name) (whole : Value) : List Value → List Value
  | [] => []
  | v :: vs => unroll name whole v :: unrollAll name whole vs

def unrollEntries (name : Name) (whole : Value) : List (Value × Value) → List (Value × Value)
  | [] => []
  | (k, v) :: es => (unroll name whole k, unroll name whole v) :: unrollEntries name whole es

end

/-- A collection whose items no longer need it around them: it stands in them for its name. -/
def opened : Value → Value
  | cyclic name v => unroll name (cyclic name v) v
  | v => v

def entries? (v : Value) : Option Entries :=
  match v.opened with
  | map es => some es
  | _ => none

/-! ## Kinds -/

def kindName : Value → Text
  | null => "NoneType"
  | bool _ => "bool"
  | int _ => "int"
  | float _ => "float"
  | text _ => "str"
  | day _ => "date"
  | moment _ => "datetime"
  | bytes _ => "bytes"
  | list _ => "list"
  | pair _ _ => "tuple"
  | map _ => "dict"
  | set _ => "set"
  | cyclic _ v => kindName v
  | outer _ .list => "list"
  | outer _ .pair => "tuple"
  | outer _ .map => "dict"

/-- Whether a value counts as given: nothing, no, zero and what is empty do not. -/
def isTruthy : Value → Bool
  | null => false
  | bool b => b
  | int n => n != 0
  | float x => x != 0
  | text t => !t.isEmpty
  | bytes bs => !bs.isEmpty
  | list vs => !vs.isEmpty
  | map es | set es => !es.isEmpty
  | cyclic _ v => isTruthy v
  | day _ | moment _ | pair _ _ | outer _ _ => true

/-! ## Writing -/

def Shape.enclose (shape : Shape) (items : List Text) : Text :=
  let t := Text.joinWith ", " items
  match shape with
  | list => "[" ++ t ++ "]"
  | pair => "(" ++ t ++ ")"
  | map => "\x7b" ++ t ++ "\x7d"

/-- A collection in place of which only its brackets are shown. -/
def Shape.elided (shape : Shape) : Text := shape.enclose ["..."]

/-- The mark of a member of a set, if it has one. -/
def mark? : Value → Option Nat
  | bool b => some (if b then 1 else 0)
  | int n => some (Scatter.markOf n)
  | float x => Scatter.markOfFloat? x
  | text [] | bytes [] => some 0
  | _ => none

/-- What is shown for the members of a set. If some have no mark, they are left in order. -/
def inSetOrder (members : Entries) (ts : List Text) : List Text :=
  match members.mapM fun e => e.1.mark? with
  | some marks => Scatter.order (marks.zip ts)
  | none => ts

def shape : Value → Shape
  | list _ => .list
  | pair _ _ => .pair
  | cyclic _ v => shape v
  | outer _ shape => shape
  | _ => .map

mutual

/-- A value as a message shows it inside of collections that hold themselves. One of those is not
shown again. -/
def shownIn (around : List Name) : Value → Text
  | null => "None"
  | bool true => "True"
  | bool false => "False"
  | int n => Text.ofInt n
  | float x => Decimal.text x
  | text t => Text.shown t
  | day d => d.shown
  | moment m => m.shown
  | bytes bs => Text.shownBytes bs
  | list vs => Shape.enclose .list (shownAll around vs)
  | pair k v => Shape.enclose .pair [shownIn around k, shownIn around v]
  | map es => Shape.enclose .map (shownEntries around es)
  | set es =>
    if es.isEmpty then "set()" else Shape.enclose .map (inSetOrder es (shownKeys around es))
  | cyclic name v => if around.contains name then v.shape.elided else shownIn (name :: around) v
  | outer _ shape => shape.elided

def shownAll (around : List Name) : List Value → List Text
  | [] => []
  | v :: vs => shownIn around v :: shownAll around vs

def shownEntries (around : List Name) : List (Value × Value) → List Text
  | [] => []
  | (k, v) :: es => (shownIn around k ++ ": " ++ shownIn around v) :: shownEntries around es

def shownKeys (around : List Name) : List (Value × Value) → List Text
  | [] => []
  | (k, _) :: es => shownIn around k :: shownKeys around es

end

def shown (v : Value) : Text := v.shownIn []

/-- The text that a value stands for: a text is itself, days and moments have a form of their own,
anything else is shown. -/
def asText : Value → Text
  | text t => t
  | day d => d.text
  | moment m => m.text
  | v => shown v

mutual

/-- Whether a value can be written, which a number of too many digits cannot. -/
def isWritable : Value → Bool
  | int n => n.natAbs < Nat.pow 10 Text.mostDigits
  | list vs => areWritable vs
  | pair k v => isWritable k && isWritable v
  | map es | set es => entriesWritable es
  | cyclic _ v => isWritable v
  | _ => true

def areWritable : List Value → Bool
  | [] => true
  | v :: vs => isWritable v && areWritable vs

def entriesWritable : List (Value × Value) → Bool
  | [] => true
  | (k, v) :: es => isWritable k && isWritable v && entriesWritable es

end

end Value

end FilterBar
