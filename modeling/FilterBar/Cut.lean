/-!
# Cutting a list at a signed bound

A bound counts from the end of the list when it is negative, and one that lies outside the list
stands for the nearer end. `before` and `since` cut at the same place:
`before_append_since` puts the two parts together again.
-/

namespace FilterBar.Cut

variable {α : Type}

/-- The place in a list of length `n` that the signed bound `i` names. -/
def place (n : Nat) (i : Int) : Nat := if i < 0 then (n + i).toNat else min i.toNat n

def before (i : Int) (xs : List α) : List α := xs.take (place xs.length i)

def since (i : Int) (xs : List α) : List α := xs.drop (place xs.length i)

def at? (i : Int) (xs : List α) : Option α :=
  let j := if i < 0 then xs.length + i else i
  if j < 0 then none else xs[j.toNat]?

theorem before_append_since (i : Int) (xs : List α) : before i xs ++ since i xs = xs :=
  List.take_append_drop _ _

theorem before_ofNat (n : Nat) (xs : List α) : before n xs = xs.take n := by
  simp [before, place, List.take_eq_take_iff, show ¬ ((n : Int) < 0) by omega]

theorem since_ofNat (n : Nat) (xs : List α) : since n xs = xs.drop n := by
  simp only [since, place, show ¬ ((n : Int) < 0) by omega, if_false, Int.toNat_natCast]
  by_cases h : n ≤ xs.length
  · rw [Nat.min_eq_left h]
  · rw [Nat.min_eq_right (by omega), List.drop_length, List.drop_eq_nil_of_le (by omega)]

theorem at?_ofNat (n : Nat) (xs : List α) : at? n xs = xs[n]? := by
  simp only [at?, show ¬ ((n : Int) < 0) by omega, if_false, Int.toNat_natCast]

end FilterBar.Cut
