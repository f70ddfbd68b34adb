import FilterBar.Suggestion.Completion
import Mathlib.Data.List.Infix

/-!
# Raising the limit

The limit cuts each ranked list at its end, before the candidates are offered. So a higher limit
adds candidates behind the ones that were there, also where they follow a block that it does not
bound (`candidates_prefix_of_le`), and what is offered depends on nothing that stands further down
(`offerAfter_prefix_of_prefix`). Hence a higher limit only adds suggestions at the end.
-/

namespace FilterBar

open Query

/-! ## Longer beginnings -/

namespace Cut

variable {α : Type} {i j : Int}

theorem place_le_place (hi : 0 ≤ i) (hij : i ≤ j) (n : Nat) : place n i ≤ place n j := by
  unfold place
  split_ifs <;> omega

theorem before_prefix_of_le (hi : 0 ≤ i) (hij : i ≤ j) (xs : List α) :
    before i xs <+: before j xs :=
  List.take_prefix_take_left (place_le_place hi hij xs.length)

end Cut

namespace Suggestion

variable {cs ds : List Suggestion}

theorem offerAfter_prefix_of_prefix (h : cs <+: ds) (taken seen : List Text) :
    offerAfter taken seen cs <+: offerAfter taken seen ds := by
  obtain ⟨more, rfl⟩ := h
  induction cs generalizing seen with
  | nil => exact List.nil_prefix
  | cons c cs ih =>
    rw [List.cons_append, offerAfter, offerAfter]
    split
    · exact ih seen
    · exact (List.prefix_cons_inj c).2 (ih _)

end Suggestion

namespace Request

open Suggestion

def upTo (r : Request) (n : Int) : Request := { r with limit := n }

@[simp] theorem limit_upTo (r : Request) (n : Int) : (r.upTo n).limit = n := rfl

@[simp] theorem fragment_upTo (r : Request) (n : Int) : (r.upTo n).fragment = r.fragment := rfl

@[simp] theorem catalog_upTo (r : Request) (n : Int) : (r.upTo n).catalog = r.catalog := rfl

/-! ## Candidates up to a limit -/

section

variable {n m : Int} (hn : 0 ≤ n) (hnm : n ≤ m)
include hn hnm

theorem best_prefix_of_le {α : Type} (target : α → Text) (query : Text) (values : List α) :
    Match.best target query n values <+: Match.best target query m values :=
  Cut.before_prefix_of_le hn hnm _

theorem keyCandidates_prefix_of_le (r : Request) (fragment : Text) :
    (r.upTo n).keyCandidates fragment <+: (r.upTo m).keyCandidates fragment := by
  unfold keyCandidates
  split
  · exact best_prefix_of_le hn hnm _ _ _
  · split
    · exact (List.prefix_append_right_inj signs).2 (Cut.before_prefix_of_le hn hnm controls)
    · -- The entities have a bound of their own, which stays.
      exact (List.prefix_append_right_inj _).2 (best_prefix_of_le hn hnm _ _ _)

theorem axisCandidates_prefix_of_le (r : Request) (sign : Text) (axis : Axis) (value : Text) :
    (r.upTo n).axisCandidates sign axis value <+: (r.upTo m).axisCandidates sign axis value := by
  cases axis <;> exact (best_prefix_of_le hn hnm _ _ _).map _

theorem focusCandidates_prefix_of_le (r : Request) (value : Text) :
    (r.upTo n).focusCandidates value <+: (r.upTo m).focusCandidates value := by
  simp only [focusCandidates, catalog_upTo, limit_upTo]
  split <;> exact (best_prefix_of_le hn hnm _ _ _).map _

/-- A key that needs no sign has values up to either limit or up to none. -/
theorem controlCandidates?_prefix_of_le (r : Request) (key value : Text) :
    Option.Rel (· <+: ·) ((r.upTo n).controlCandidates? key value)
      ((r.upTo m).controlCandidates? key value) := by
  unfold controlCandidates?
  split_ifs
  -- The switches and the display options are ranked by their names.
  iterate 5 exact .some ((best_prefix_of_le hn hnm _ _ _).map _)
  · exact .some (focusCandidates_prefix_of_le hn hnm r value)
  · exact .none

theorem valueCandidates_prefix_of_le (r : Request) (fragment : Text) (sign : Option Sign)
    (rest key written : Text) :
    (r.upTo n).valueCandidates fragment sign rest key written <+:
      (r.upTo m).valueCandidates fragment sign rest key written := by
  unfold valueCandidates
  simp only
  split
  · exact axisCandidates_prefix_of_le hn hnm r _ _ _
  · have hcontrol := controlCandidates?_prefix_of_le hn hnm r (Text.lower key)
      (Text.lower (Text.trim (· == '"') written))
    generalize (r.upTo n).controlCandidates? _ _ = found,
      (r.upTo m).controlCandidates? _ _ = found' at hcontrol ⊢
    cases hcontrol with
    | some h => exact h
    | none =>
      split
      · next hfound _ => cases hfound
      · exact best_prefix_of_le hn hnm _ _ _
      · exact best_prefix_of_le hn hnm _ _ _

theorem candidates_prefix_of_le (r : Request) :
    (r.upTo n).candidates <+: (r.upTo m).candidates := by
  simp only [candidates, fragment_upTo]
  split
  · exact keyCandidates_prefix_of_le hn hnm r _
  · exact valueCandidates_prefix_of_le hn hnm r _ _ _ _ _

end

/-- Raising the limit only adds suggestions, behind the ones that were there. -/
theorem suggestions_prefix_of_le (r : Request) {n m : Int} (hn : 0 ≤ n) (hnm : n ≤ m) :
    (r.upTo n).suggestions <+: (r.upTo m).suggestions :=
  offerAfter_prefix_of_prefix (candidates_prefix_of_le hn hnm r) _ _

/-- Keys behind the signs, which no limit cuts: one of them is in the query already. -/
theorem raised_limit_adds_key :
    let r : Request := { existing := ["LONERS:\"on\""] }
    (r.upTo 2).suggestions.map Suggestion.token = ["+", "-", "focus:<id>"] ∧
      (r.upTo 3).suggestions.map Suggestion.token = ["+", "-", "focus:<id>", "loners:off"] ∧
      (r.upTo 2).suggestions <+: (r.upTo 3).suggestions := by
  intro r
  have hle : (0 : Int) ≤ 2 ∧ (2 : Int) ≤ 3 := by decide
  exact ⟨by decide, by decide, r.suggestions_prefix_of_le hle.1 hle.2⟩

end Request

end FilterBar
