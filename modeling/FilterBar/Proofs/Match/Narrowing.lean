import Mathlib.Data.ENat.Basic
import Mathlib.Data.List.Perm.Subperm
import FilterBar.Proofs.Match.Ranking

/-!
# Typing more

What has been typed is matched better than what is typed in the end. Each tier is a relation between
query and target (`Tier.Holds`) that a query hands down to its beginnings, and a target is put into
the best tier that holds (`exists_tier?_iff`). So a longer query finds fewer values, and none of them in
a better tier: `longer_query_narrows`.

- `rank`: the number of a tier, infinite for a target that does not match.
-/

namespace FilterBar.Match

variable {query more target : Text} {t u : Tier}

/-! ## Tiers as relations -/

def Tier.Holds : Tier → Text → Text → Prop
  | .leading, query, target => query <+: target
  | .inside, query, target => query <:+: target
  | .scattered, query, target => query.Sublist target

namespace Tier.Holds

theorem weaken (h : t.Holds query target) (hle : t.rank ≤ u.rank) : u.Holds query target := by
  cases t with
  | leading =>
    cases u with
    | leading => exact h
    | inside => exact List.IsPrefix.isInfix h
    | scattered => exact List.IsPrefix.sublist h
  | inside =>
    cases u with
    | leading => exact absurd hle (by decide)
    | inside => exact h
    | scattered => exact List.IsInfix.sublist h
  | scattered =>
    cases u with
    | leading | inside => exact absurd hle (by decide)
    | scattered => exact h

/-- The beginning of a query stands in a target as the whole query does. -/
theorem of_append (h : t.Holds (query ++ more) target) : t.Holds query target := by
  have hprefix : query <+: query ++ more := List.prefix_append query more
  cases t with
  | leading => exact hprefix.trans h
  | inside => exact hprefix.isInfix.trans h
  | scattered => exact hprefix.sublist.trans h

end Tier.Holds

theorem holds_of_tier? (h : tier? query target = some t) : t.Holds query target := by
  cases t with
  | leading => exact tier?_eq_leading_iff.1 h
  | inside => exact (tier?_eq_inside_iff.1 h).2
  | scattered => exact (tier?_eq_scattered_iff.1 h).2

theorem rank_le_of_holds (h : tier? query target = some u) (ht : t.Holds query target) :
    u.rank ≤ t.rank := by
  cases u with
  | leading => exact Nat.zero_le _
  | inside =>
    cases t with
    | leading => exact absurd ht (tier?_eq_inside_iff.1 h).1
    | inside | scattered => decide
  | scattered =>
    have hinside : ¬ Tier.inside.Holds query target := (tier?_eq_scattered_iff.1 h).1
    cases t with
    | leading | inside => exact absurd (ht.weaken (by decide)) hinside
    | scattered => exact Nat.le_refl _

theorem exists_tier?_iff :
    (∃ u, tier? query target = some u ∧ u.rank ≤ t.rank) ↔ t.Holds query target := by
  constructor
  · rintro ⟨u, hu, hle⟩
    exact (holds_of_tier? hu).weaken hle
  · intro h
    -- Whatever holds, the target matches; its tier is then no worse.
    have hsublist : query.Sublist target := h.weaken (u := .scattered) (by cases t <;> decide)
    obtain ⟨u, hu⟩ := Option.isSome_iff_exists.1 (tier?_isSome_iff.2 hsublist)
    exact ⟨u, hu, rank_le_of_holds hu h⟩

/-! ## Ranks -/

/-- The number of the tier of a target, infinite if the target does not match. -/
def rank (query target : Text) : ℕ∞ := (tier? query target).elim ⊤ fun t => t.rank

theorem rank_le_iff : rank query target ≤ t.rank ↔ t.Holds query target := by
  rw [← exists_tier?_iff, rank]
  cases tier? query target <;> simp

theorem rank_le_rank_append (query more target : Text) :
    rank query target ≤ rank (query ++ more) target := by
  cases h : tier? (query ++ more) target with
  | none => simp [rank, h]
  | some t =>
    have hrank : rank (query ++ more) target = t.rank := by rw [rank, h, Option.elim_some]
    rw [hrank]
    exact rank_le_iff.2 (holds_of_tier? h).of_append

/-! ## Longer queries -/

theorem ranked_append_subperm {α : Type} (target : α → Text) (query more : Text) (values : List α) :
    (ranked target (query ++ more) values).Subperm (ranked target query values) := by
  have hfilter : (values.filter fun v => (query ++ more).Sublist (Text.lower (target v))).Sublist
      (values.filter fun v => query.Sublist (Text.lower (target v))) :=
    values.monotone_filter_right fun v hv =>
      decide_eq_true ((List.sublist_append_left query more).trans (of_decide_eq_true hv))
  have hlong := ranked_perm target (query ++ more) values
  have hshort := ranked_perm target query values
  exact hlong.subperm.trans (hfilter.subperm.trans hshort.symm.subperm)

/-- The scan finds a query just if it is scattered over the target. To go on typing never makes a rank
better: all the values that a longer query finds were found by its beginning, each as often and in a
tier that is as good. -/
theorem longer_query_narrows {α : Type} (target : α → Text) (values : List α) (query more : Text) :
    (∀ text, isScattered query text = true ↔ query.Sublist text) ∧
      (∀ text, rank query text ≤ rank (query ++ more) text) ∧
      (ranked target (query ++ more) values).Subperm (ranked target query values) ∧
      ∀ v t, tier? (query ++ more) (Text.lower (target v)) = some t →
        ∃ u, tier? query (Text.lower (target v)) = some u ∧ u.rank ≤ t.rank := by
  refine ⟨fun _ => isScattered_iff_sublist, rank_le_rank_append query more,
    ranked_append_subperm target query more values, fun v t h => ?_⟩
  exact exists_tier?_iff.2 (holds_of_tier? h).of_append

/-- Letter by letter a target falls from the best tier to the weakest, and out. -/
example :
    ["a", "ab", "abc", "abcd"].map (fun query : String => tier? query "acab-c") =
      [some .leading, some .inside, some .scattered, none] := by
  decide

end FilterBar.Match
