import FilterBar.Text.Case
import FilterBar.Cut

/-!
# Matching by what has been typed

A target matches a query that begins it, stands inside it, or is scattered over it in order. The
three tiers rank the matches; within a tier the order stays as it was.

- `tier?`: the tier of a target, if it matches.
- `ranked`: the values that match, in a stable order by tier.
- `best`: the ranked values up to a signed bound.
-/

namespace FilterBar.Match

/-- How a target matches a query, from the best way to the weakest. -/
inductive Tier where
  | leading
  | inside
  | scattered
deriving DecidableEq

def Tier.rank : Tier → Nat
  | .leading => 0
  | .inside => 1
  | .scattered => 2

/-- Whether the characters of `query` appear in the target in order, found from left to right. -/
def isScattered : Text → Text → Bool
  | [], _ => true
  | _ :: _, [] => false
  | q :: qs, c :: r => if c = q then isScattered qs r else isScattered (q :: qs) r

/-- The best tier of a target. Every target begins with the empty query. -/
def tier? (query target : Text) : Option Tier :=
  if query.isPrefixOf target then some .leading
  else if Text.occurs query target then some .inside
  else if isScattered query target then some .scattered
  else none

variable {α : Type}

/-- Puts a value in front of the first one whose tier is no better. -/
def insert (x : Tier × α) : List (Tier × α) → List (Tier × α)
  | [] => [x]
  | y :: ys => if x.1.rank ≤ y.1.rank then x :: y :: ys else y :: insert x ys

/-- The values in order of their tiers, those of one tier in the order they were given in. -/
def sort : List (Tier × α) → List (Tier × α)
  | [] => []
  | x :: xs => insert x (sort xs)

/-- The values whose lower-case target matches, best tier first. -/
def ranked (target : α → Text) (query : Text) (values : List α) : List α :=
  (sort (values.filterMap fun v =>
    (tier? query (Text.lower (target v))).map fun t => (t, v))).map Prod.snd

/-- The ranked values up to a bound, which counts from the end when it is negative. -/
def best (target : α → Text) (query : Text) (limit : Int) (values : List α) : List α :=
  Cut.before limit (ranked target query values)

end FilterBar.Match
