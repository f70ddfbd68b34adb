import FilterBar.Proofs.Suggestion.Form

/-!
# Suggestions up to a limit

The values of an axis go through four stages: they are ranked, cut at the limit, relieved of those
that the query has already, and offered once each. The cut comes before the other two, so what they
leave out is not made up for by values further down. `suggestions_are_new_among_first` compares what
is offered with the list that would be if the cut came last: it begins that list, and is shorter
unless nothing was left out or nothing new stands behind the cut.

- `Catalog.matching`: the ids of an axis that match, in rank order, told without sorting.
- `newTokens`: the tokens that say something new, each once.
-/

namespace FilterBar

open Query

variable {r : Request} {axis : Axis} {sign : Sign}

/-! ## Tokens that are new -/

namespace Suggestion

variable {existing tokens : List Text} {n : Nat}

/-- Whether the query has no token with the same canonical form. -/
def IsNew (existing : List Text) (token : Text) : Prop :=
  canonical token ∉ existing.map canonical

instance (existing : List Text) : DecidablePred (IsNew existing) :=
  fun _ => inferInstanceAs (Decidable (_ ∉ _))

/-- The tokens that are new, each once. -/
def newTokens (existing tokens : List Text) : List Text :=
  (tokens.filter (IsNew existing ·)).eraseDups

theorem mem_newTokens {token : Text} :
    token ∈ newTokens existing tokens ↔ token ∈ tokens ∧ IsNew existing token := by
  rw [newTokens, List.mem_eraseDups, List.mem_filter, decide_eq_true_iff]

theorem newTokens_eq_nil_iff :
    newTokens existing tokens = [] ↔ ∀ token ∈ tokens, ¬ IsNew existing token := by
  simp only [List.eq_nil_iff_forall_not_mem, mem_newTokens, not_and]

theorem length_eraseDups_le : ∀ ts : List Text, ts.eraseDups.length ≤ ts.length
  | [] => Nat.zero_le _
  | t :: ts => by
    have hfilter : (ts.filter fun u => !u == t).length ≤ ts.length := List.length_filter_le ..
    have hrest := length_eraseDups_le (ts.filter fun u => !u == t)
    rw [List.eraseDups_cons, List.length_cons, List.length_cons]
    omega
termination_by ts => ts.length

theorem length_newTokens_le : (newTokens existing tokens).length ≤ tokens.length :=
  (length_eraseDups_le _).trans (List.length_filter_le ..)

theorem newTokens_append (ts us : List Text) :
    newTokens existing (ts ++ us) =
      newTokens existing ts ++ newTokens existing (us.filter fun u => u ∉ ts) := by
  simp only [newTokens, List.filter_append, List.eraseDups_append, List.removeAll,
    List.filter_filter]
  congr 2
  refine List.filter_congr fun u _ => ?_
  by_cases hu : IsNew existing u <;> simp [hu]

/-- Cutting the tokens before the new ones are chosen leaves what cutting the new ones leaves, or
the beginning of it. It is all of it just if there is nothing to add or no place for more. -/
theorem newTokens_take :
    newTokens existing (tokens.take n) <+: (newTokens existing tokens).take n ∧
      (newTokens existing (tokens.take n) = (newTokens existing tokens).take n ↔
        (newTokens existing (tokens.take n)).length = n ∨
          ∀ t ∈ tokens.drop n, t ∈ tokens.take n ∨ ¬ IsNew existing t) := by
  have hsplit : newTokens existing (tokens.take n ++ tokens.drop n) = _ := newTokens_append ..
  rw [List.take_append_drop] at hsplit
  have hlen : (newTokens existing (tokens.take n)).length ≤ n :=
    length_newTokens_le.trans (List.length_take_le ..)
  have hadded : newTokens existing ((tokens.drop n).filter fun u => u ∉ tokens.take n) = [] ↔
      ∀ t ∈ tokens.drop n, t ∈ tokens.take n ∨ ¬ IsNew existing t := by
    simp only [newTokens_eq_nil_iff, List.mem_filter, decide_eq_true_eq, and_imp,
      or_iff_not_imp_left]
  rw [hsplit, List.take_append, List.take_of_length_le hlen]
  refine ⟨List.prefix_append _ _, ?_⟩
  rw [List.self_eq_append_right, List.take_eq_nil_iff, hadded]
  exact or_congr_left (by omega)

theorem offerAfter_tokens (existing seen : List Text) (cs : List Suggestion) :
    (offerAfter (existing.map canonical) seen cs).map token =
      newTokens existing ((cs.map token).filter fun t => t ∉ seen) := by
  induction cs generalizing seen with
  | nil => rfl
  | cons s cs ih =>
    have hskip : (seen.contains s.token ||
        (existing.map canonical).contains (canonical s.token)) = true ↔
          s.token ∈ seen ∨ ¬ IsNew existing s.token := by
      rw [Bool.or_eq_true, List.contains_iff_mem, List.contains_iff_mem, IsNew, not_not]
    rw [offerAfter, List.map_cons]
    by_cases hseen : s.token ∈ seen
    · rw [if_pos (hskip.2 (.inl hseen)), ih, List.filter_cons_of_neg (by simp [hseen])]
    rw [List.filter_cons_of_pos (by simp [hseen])]
    by_cases hnew : IsNew existing s.token
    · -- From here on the token counts as seen, which is what removing its repetitions comes to.
      rw [if_neg fun h => (hskip.1 h).elim hseen (· hnew), List.map_cons, ih, newTokens, newTokens,
        List.filter_cons_of_pos (by simp [hnew]), List.eraseDups_cons]
      simp only [List.filter_filter, List.mem_cons, not_or]
      congr 2
      refine List.filter_congr fun t _ => ?_
      by_cases ht : t = s.token <;> simp [ht, Bool.and_comm]
    · rw [if_pos (hskip.2 (.inr hnew)), ih, newTokens, newTokens,
        List.filter_cons_of_neg (by simp [hnew])]

theorem offer_tokens (existing : List Text) (cs : List Suggestion) :
    (offer existing cs).map token = newTokens existing (cs.map token) := by
  rw [offer, offerAfter_tokens]
  simp only [List.not_mem_nil, not_false_eq_true, decide_true, List.filter_true]

end Suggestion

/-! ## Values in rank order -/

/-- The listed ids of an axis, each with the text that it is found by. -/
def Catalog.listed (c : Catalog) : Axis → List (Text × Text)
  | .node => c.nodeIds.map fun id => (id, id)
  | .location => c.locations.map fun id => (id, id)
  | .crate => c.crates.map fun i => (i.id, Suggestion.itemTarget i)
  | .process => c.processes.map fun i => (i.id, Suggestion.itemTarget i)
  | .kind => c.kinds.map fun i => (i.id, Suggestion.itemTarget i)
  | .module => c.modules.map fun i => (i.id, Suggestion.itemTarget i)

/-- The ids of an axis that match a query, tier by tier in the order of the catalog. -/
def Catalog.matching (c : Catalog) (axis : Axis) (query : Text) : List Text :=
  (Match.Tier.all.flatMap fun t => Match.matchingIn Prod.snd query t (c.listed axis)).map Prod.fst

namespace Suggestion

def pickToken (sign : Sign) (axis : Axis) (id : Text) : Text :=
  sign.mark :: (axis.key ++ ':' :: writtenId axis id)

end Suggestion

namespace Request

open Suggestion

theorem axisCandidates_tokens {value : Text} {n : Nat} (hlimit : r.limit = n) :
    (r.axisCandidates [sign.mark] axis value).map token =
      ((r.catalog.matching axis value).take n).map (pickToken sign axis) := by
  rw [Catalog.matching, ← Match.ranked_eq_flatMap, ← List.map_take]
  cases axis <;>
    simp only [axisCandidates, Catalog.listed, hlimit, Match.best, Cut.before_ofNat,
      Match.ranked_map, List.map_take, List.map_map] <;>
    rfl

theorem candidates_tokens {key query : Text} {n : Nat}
    (haxis : Axis.ofKey? (Text.lower key) = some axis)
    (hfragment : r.fragment = sign.mark :: (key ++ ':' :: query)) (hlimit : r.limit = n) :
    r.candidates.map token =
      ((r.catalog.matching axis (typed query)).take n).map (pickToken sign axis) := by
  have hcut : Text.cut? ':' (key ++ ':' :: query) = some (key, query) :=
    Text.cut?_append_mark (no_colon_of_axis haxis) query
  have hlead : ∀ c ∈ ([] : Text), Text.isBlank c = true := fun _ hc => nomatch hc
  rw [r.candidates_of_axis hlead hfragment hcut haxis, r.axisCandidates_tokens hlimit]

end Request

/-! ## Before and behind the cut -/

namespace Suggestion

/-- What is offered behind a sign, a key of an axis and a colon are the new tokens among those of
the first ids, up to the limit, that match. The list is the beginning of the one that would be
offered if the new tokens were chosen before the cut, and is that list just if it reaches the
limit or nothing new stands behind the cut. It is empty just if nothing new stands before it. -/
theorem suggestions_are_new_among_first {r : Request} {sign : Sign} {axis : Axis}
    {key query : Text} {n : Nat} (haxis : Axis.ofKey? (Text.lower key) = some axis)
    (hfragment : r.fragment = sign.mark :: (key ++ ':' :: query)) (hlimit : r.limit = n) :
    let tokens := (r.catalog.matching axis (typed query)).map (pickToken sign axis)
    r.suggestions.map token = newTokens r.existing (tokens.take n) ∧
      r.suggestions.map token <+: (newTokens r.existing tokens).take n ∧
      (r.suggestions.map token = (newTokens r.existing tokens).take n ↔
        r.suggestions.length = n ∨
          ∀ t ∈ tokens.drop n, t ∈ tokens.take n ∨ ¬ IsNew r.existing t) ∧
      (r.suggestions = [] ↔ ∀ t ∈ tokens.take n, ¬ IsNew r.existing t) := by
  intro tokens
  have hnew : r.suggestions.map token = newTokens r.existing (tokens.take n) := by
    rw [Request.suggestions, offer_tokens, r.candidates_tokens haxis hfragment hlimit,
      List.map_take]
  obtain ⟨hbegins, hall⟩ : newTokens r.existing (tokens.take n) <+: _ ∧ _ := newTokens_take
  refine ⟨hnew, hnew ▸ hbegins, ?_, ?_⟩
  · have hlen : r.suggestions.length = (r.suggestions.map token).length := (List.length_map _).symm
    rw [hlen, hnew]
    exact hall
  · rw [← List.map_eq_nil_iff (f := token), hnew]
    exact newTokens_eq_nil_iff

/-- Locations behind the other key of the axis: the first is in the query already. -/
theorem suggested_locations :
    let r : Request :=
      { fragment := "-Source:A ", existing := ["-source:\"a:1\""], limit := 2
        catalog := { locations := ["a:1", "ba:2", "a:3", "aa"] } }
    r.suggestions.map token = ["-location:\"a:3\""] := by
  intro r
  have hkey : Axis.ofKey? (Text.lower "Source") = some .location := by decide
  have hfragment : r.fragment = Sign.minus.mark :: (("Source" : Text) ++ ':' :: "A ") := rfl
  exact (suggestions_are_new_among_first hkey hfragment rfl).1.trans (by decide)

/-- A crate that is in the query already takes the only place, and the other is not listed. -/
theorem committed_crate_starves_list :
    let r : Request :=
      { fragment := "+crate:", existing := ["+crate:a"], limit := 1
        catalog := { crates := [⟨"a", "a"⟩, ⟨"b", "b"⟩] } }
    let tokens := (r.catalog.matching .crate (typed [])).map (pickToken .plus .crate)
    (newTokens r.existing tokens).take 1 = ["+crate:b"] ∧ r.suggestions = [] := by
  decide

end Suggestion

end FilterBar
