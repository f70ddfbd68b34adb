import Mathlib.Data.List.DropRight
import Mathlib.Data.List.Infix
import FilterBar.Proofs.Match

/-!
# The ranking in three groups

What a query begins, what it stands inside of and what it is only scattered over are three groups of
the values, each in the order that the values came in. The ranking is the groups one behind the other
(`ranked_eq_groups`), which are all the values that match, each once (`groups_perm`), and
`best_eq_slice` says which part of it a bound leaves.

- `groups`: the three groups, told by prefix, infix and subsequence.
-/

namespace FilterBar

namespace Text

theorem occurs_iff_infix {part t : Text} : occurs part t = true ↔ part <:+: t := by
  induction t with
  | nil => rw [occurs, List.isEmpty_iff, List.infix_nil]
  | cons c r ih => rw [occurs, Bool.or_eq_true, List.isPrefixOf_iff_prefix, ih, List.infix_cons_iff]

end Text

namespace Cut

variable {α : Type}

theorem before_eq (limit : Int) (xs : List α) :
    before limit xs =
      if 0 ≤ limit then xs.take limit.toNat else xs.rdrop (-limit).toNat := by
  by_cases h : 0 ≤ limit
  · rw [if_pos h]
    obtain ⟨n, rfl⟩ := Int.eq_ofNat_of_zero_le h
    exact before_ofNat n xs
  · rw [if_neg h, before, place, if_pos (by omega), List.rdrop]
    congr 1
    omega

end Cut

namespace Match

variable {α : Type} {query target : Text}

/-! ## Tiers by what they mean -/

theorem tier?_eq_ite (query target : Text) :
    tier? query target =
      if query <+: target then some .leading
      else if query <:+: target then some .inside
      else if query.Sublist target then some .scattered
      else none := by
  simp only [tier?, List.isPrefixOf_iff_prefix, Text.occurs_iff_infix, isScattered_iff_sublist]

theorem tier?_eq_leading_iff : tier? query target = some .leading ↔ query <+: target := by
  rw [tier?_eq_ite]
  split_ifs <;> simp_all

theorem tier?_eq_inside_iff :
    tier? query target = some .inside ↔ ¬ query <+: target ∧ query <:+: target := by
  rw [tier?_eq_ite]
  split_ifs <;> simp_all

theorem tier?_eq_scattered_iff :
    tier? query target = some .scattered ↔ ¬ query <:+: target ∧ query.Sublist target := by
  have hinfix : query <+: target → query <:+: target := List.IsPrefix.isInfix
  rw [tier?_eq_ite]
  split_ifs <;> simp_all

/-! ## The groups -/

section Groups

variable (target : α → Text) (query : Text) (values : List α)

/-- The values whose lower-case target begins with the query, then those that have it inside, then
those that it is scattered over. -/
def groups : List α :=
  let leads v := query <+: Text.lower (target v)
  let stands v := query <:+: Text.lower (target v)
  let matching v := query.Sublist (Text.lower (target v))
  values.filter (fun v => leads v) ++ values.filter (fun v => ¬ leads v ∧ stands v) ++
    values.filter fun v => ¬ stands v ∧ matching v

theorem ranked_eq_groups : ranked target query values = groups target query values := by
  simp only [ranked_eq_flatMap, Tier.all, matchingIn, List.flatMap_cons, List.flatMap_nil,
    List.append_nil, tier?_eq_leading_iff, tier?_eq_inside_iff, tier?_eq_scattered_iff, groups,
    List.append_assoc]

theorem ranked_perm :
    (ranked target query values).Perm
      (values.filter fun v => query.Sublist (Text.lower (target v))) := by
  refine ((sort_perm _).map Prod.snd).trans (List.Perm.of_eq ?_)
  rw [List.map_filterMap, ← List.filterMap_eq_filter]
  refine List.filterMap_congr fun v _ => ?_
  rw [Option.map_map]
  have hmatch : (tier? query (Text.lower (target v))).isSome = true ↔
      query.Sublist (Text.lower (target v)) := tier?_isSome_iff
  cases htier : tier? query (Text.lower (target v)) with
  | none => simp_all [Option.guard]
  | some t => simp_all [Option.guard]

/-- The best values are the part of the three groups that the bound leaves: as many from the front, or
all but as many at the end if it is negative. The groups hold all the values that match and no others,
each as often as it is given. -/
theorem best_eq_slice (limit : Int) :
    best target query limit values =
        (if 0 ≤ limit then (groups target query values).take limit.toNat
          else (groups target query values).rdrop (-limit).toNat) ∧
      (groups target query values).Perm
        (values.filter fun v => query.Sublist (Text.lower (target v))) := by
  rw [best, Cut.before_eq, ranked_eq_groups]
  refine ⟨rfl, ?_⟩
  rw [← ranked_eq_groups]
  exact ranked_perm target query values

/-- Of the three that match, the worst is dropped. -/
example : best id "ab" (-1) ["axb", "xab", "b", "ab"] = ["ab", "xab"] := by decide

end Groups

end Match

end FilterBar
