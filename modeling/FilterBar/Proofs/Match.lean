import Mathlib.Data.List.Basic
import FilterBar.Match

/-!
# What a ranking keeps

A target matches if the query is scattered over it (`tier?_isSome_iff`). Ranking puts the values
that match into another order and invents none. `mem_ranked_iff` says which values are ranked, and
`mem_of_mem_best` is what is left of it once the ranked values are cut at a bound.
`ranked_eq_flatMap` says where they are put: tier by tier, and within a tier as they came.
-/

namespace FilterBar.Match

/-! ## What matches -/

/-- The scan from left to right finds the query if it is there at all. -/
theorem isScattered_iff_sublist {query target : Text} :
    isScattered query target = true ↔ query.Sublist target := by
  induction target generalizing query with
  | nil => cases query <;> simp [isScattered]
  | cons c r ih =>
    cases query with
    | nil => simp [isScattered]
    | cons q qs =>
      rw [isScattered]
      by_cases hc : c = q
      · rw [if_pos hc, ih, hc, List.cons_sublist_cons]
      · rw [if_neg hc, ih, List.cons_sublist_cons', or_iff_left fun h => hc h.1.symm]

theorem sublist_of_occurs {query target : Text} (h : Text.occurs query target = true) :
    query.Sublist target := by
  induction target with
  | nil =>
    rw [Text.occurs, List.isEmpty_iff] at h
    rw [h]
  | cons c r ih =>
    rw [Text.occurs, Bool.or_eq_true] at h
    rcases h with h | h
    · exact (List.isPrefixOf_iff_prefix.1 h).sublist
    · exact (ih h).cons c

theorem tier?_isSome_iff {query target : Text} :
    (tier? query target).isSome = true ↔ query.Sublist target := by
  unfold tier?
  split
  · next h => exact iff_of_true rfl (List.isPrefixOf_iff_prefix.1 h).sublist
  split
  · next h => exact iff_of_true rfl (sublist_of_occurs h)
  split
  · next h => exact iff_of_true rfl (isScattered_iff_sublist.1 h)
  · next h => exact iff_of_false Bool.false_ne_true (mt isScattered_iff_sublist.2 h)

variable {α β : Type} {target : α → Text} {query : Text} {values : List α} {v : α}

/-! ## What is ranked -/

theorem insert_perm (x : Tier × α) (ys : List (Tier × α)) : (insert x ys).Perm (x :: ys) := by
  induction ys with
  | nil => exact .refl _
  | cons y ys ih =>
    rw [insert]
    split
    · exact .refl _
    · exact (ih.cons y).trans (.swap x y ys)

theorem sort_perm (xs : List (Tier × α)) : (sort xs).Perm xs := by
  induction xs with
  | nil => exact .refl _
  | cons x xs ih => exact (insert_perm x (sort xs)).trans (ih.cons x)

theorem mem_ranked_iff :
    v ∈ ranked target query values ↔
      v ∈ values ∧ (tier? query (Text.lower (target v))).isSome = true := by
  simp only [ranked, List.mem_map, (sort_perm _).mem_iff, List.mem_filterMap, Option.map_eq_some_iff]
  constructor
  · rintro ⟨-, ⟨u, hu, t, ht, rfl⟩, rfl⟩
    exact ⟨hu, Option.isSome_iff_exists.2 ⟨t, ht⟩⟩
  · rintro ⟨hv, hmatch⟩
    obtain ⟨t, ht⟩ := Option.isSome_iff_exists.1 hmatch
    exact ⟨(t, v), ⟨v, hv, t, ht, rfl⟩, rfl⟩

theorem length_ranked_le (target : α → Text) (query : Text) (values : List α) :
    (ranked target query values).length ≤ values.length := by
  rw [ranked, List.length_map, (sort_perm _).length_eq]
  exact List.length_filterMap_le ..

theorem mem_of_mem_best {limit : Int} (h : v ∈ best target query limit values) : v ∈ values :=
  (mem_ranked_iff.1 (List.mem_of_mem_take h)).1

/-! ## Tier by tier -/

def Tier.all : List Tier := [.leading, .inside, .scattered]

theorem insert_of_forall_le {x : Tier × α} {ys : List (Tier × α)}
    (h : ∀ y ∈ ys, x.1.rank ≤ y.1.rank) : insert x ys = x :: ys := by
  cases ys with
  | nil => rfl
  | cons y ys => rw [insert, if_pos (h y List.mem_cons_self)]

theorem insert_append_of_forall_lt {x : Tier × α} {ys : List (Tier × α)}
    (h : ∀ y ∈ ys, y.1.rank < x.1.rank) (zs : List (Tier × α)) :
    insert x (ys ++ zs) = ys ++ insert x zs := by
  induction ys with
  | nil => rfl
  | cons y ys ih =>
    have hy := h y List.mem_cons_self
    rw [List.cons_append, insert, if_neg (by omega), ih fun z hz => h z (List.mem_cons_of_mem y hz)]
    rfl

def inTier (t : Tier) (xs : List (Tier × α)) : List (Tier × α) := xs.filter fun x => x.1 = t

theorem tier_eq_of_mem_inTier {t : Tier} {xs : List (Tier × α)} {x : Tier × α}
    (h : x ∈ inTier t xs) : x.1 = t := by
  simpa using (List.mem_filter.1 h).2

/-- Sorting puts the tiers one behind the other and leaves each as it was. -/
theorem sort_eq_flatMap (xs : List (Tier × α)) : sort xs = Tier.all.flatMap fun t => inTier t xs := by
  induction xs with
  | nil => rfl
  | cons x xs ih =>
    have hlead : ∀ y ∈ inTier .leading xs, y.1.rank = 0 := fun y hy => by
      rw [tier_eq_of_mem_inTier hy]
      rfl
    have hinside : ∀ y ∈ inTier .inside xs, y.1.rank = 1 := fun y hy => by
      rw [tier_eq_of_mem_inTier hy]
      rfl
    have hscattered : ∀ y ∈ inTier .scattered xs, y.1.rank = 2 := fun y hy => by
      rw [tier_eq_of_mem_inTier hy]
      rfl
    obtain ⟨t, a⟩ := x
    simp only [Tier.all, List.flatMap_cons, List.flatMap_nil, List.append_nil] at ih ⊢
    rw [sort, ih]
    cases t with
    | leading =>
      rw [insert_of_forall_le fun y _ => Nat.zero_le _]
      simp [inTier]
    | inside =>
      rw [insert_append_of_forall_lt, insert_of_forall_le]
      · simp [inTier]
      · intro y hy
        show 1 ≤ y.1.rank
        rcases List.mem_append.1 hy with hy | hy
        · exact Nat.le_of_eq (hinside y hy).symm
        · rw [hscattered y hy]
          decide
      · intro y hy
        show y.1.rank < 1
        rw [hlead y hy]
        decide
    | scattered =>
      rw [insert_append_of_forall_lt, insert_append_of_forall_lt, insert_of_forall_le]
      · simp [inTier]
      · intro y hy
        show 2 ≤ y.1.rank
        exact Nat.le_of_eq (hscattered y hy).symm
      · intro y hy
        show y.1.rank < 2
        rw [hinside y hy]
        decide
      · intro y hy
        show y.1.rank < 2
        rw [hlead y hy]
        decide

def matchingIn (target : α → Text) (query : Text) (t : Tier) (values : List α) : List α :=
  values.filter fun v => tier? query (Text.lower (target v)) = some t

theorem ranked_eq_flatMap (target : α → Text) (query : Text) (values : List α) :
    ranked target query values = Tier.all.flatMap fun t => matchingIn target query t values := by
  rw [ranked, sort_eq_flatMap, List.map_flatMap]
  refine congrArg (Tier.all.flatMap ·) (funext fun t => ?_)
  rw [inTier, List.filter_filterMap, List.map_filterMap, matchingIn, ← List.filterMap_eq_filter]
  refine List.filterMap_congr fun v _ => ?_
  cases h : tier? query (Text.lower (target v)) with
  | none => simp [h, Option.guard]
  | some u => by_cases hu : u = t <;> simp [h, hu, Option.filter, Option.guard]

theorem ranked_map (f : β → α) (target : α → Text) (query : Text) (values : List β) :
    ranked target query (values.map f) = (ranked (target ∘ f) query values).map f := by
  simp only [ranked_eq_flatMap, matchingIn, List.map_flatMap, List.filter_map]
  rfl

end FilterBar.Match
