import FilterBar.Decimal.Shortest

/-!
# Scattered order

The members of a set of numbers stand in slots, of which there are more than twice as many as
members. A number has a mark, whose lowest bits say at which slot it is tried first. If that slot is
taken, the next nine are tried as well, and after them the slot that the higher bits of the mark
lead to.

- `Scatter.markOf`, `Scatter.markOfFloat?`: the mark of a number.
- `Scatter.order`: members with their marks in the order of their slots.
-/

namespace FilterBar.Scatter

/-- Marks are remainders by this prime, so that fractions have marks as well: a power of two has
one of only 61 remainders. -/
def modulus : Nat := Nat.pow 2 61 - 1

def wordSize : Nat := Nat.pow 2 64

/-- A remainder with a sign, as a word. Minus one has the mark of minus two. -/
def signed (negative : Bool) (remainder : Nat) : Nat :=
  if negative && remainder ≠ 0 then wordSize - max remainder 2 else remainder

def markOf (n : Int) : Nat := signed (n < 0) (n.natAbs % modulus)

/-- The mark of a floating-point number. A whole one has the mark of that number. -/
def markOfFloat? (x : Float) : Option Nat :=
  let bits := x.toBits.toNat
  if x.isNaN then none
  else some <| signed (Nat.pow 2 63 ≤ bits) <| match Decimal.Binary.ofBits? bits with
    | some b => b.mantissa * Nat.pow 2 (b.exponent % 61).toNat % modulus
    | none => 314159

/-- The number of slots for some members, a power of two. -/
def slotCount (members : Nat) : Nat :=
  if members < 5 then 8 else Nat.pow 2 (Nat.log2 (2 * members) + 1)

/-- The slots that are tried from one on, as far as the last slot allows. -/
def window {α : Type} (slots : Array (Option α)) (i : Nat) : List Nat :=
  if i + 9 < slots.size then List.range' i 10 else [i]

/-- Puts a member into the first free slot that it is tried at, from a slot on. `rest` is the part
of its mark that is not used up. -/
def place {α : Type} (slots : Array (Option α)) (a : α) (i rest : Nat) :
    Nat → Array (Option α)
  | 0 => slots
  | fuel + 1 =>
    match (window slots i).find? fun j => slots[j]?.join.isNone with
    | some j => slots.setIfInBounds j (some a)
    | none =>
      let rest := rest / 32
      place slots a ((5 * i + 1 + rest) % slots.size) rest fuel

/-- Members with their marks in the order of their slots. After thirteen trials nothing is left of a
mark, and from then on every slot is come to. -/
def order {α : Type} (members : List (Nat × α)) : List α :=
  let count := slotCount members.length
  let slots := members.foldl
    (fun slots (mark, a) => place slots a (mark % count) mark (count + 13))
    (Array.replicate count none)
  slots.toList.filterMap id

end FilterBar.Scatter
