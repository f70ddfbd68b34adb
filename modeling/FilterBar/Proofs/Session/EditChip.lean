import FilterBar.Proofs.Session.Accept
import FilterBar.Proofs.Suggestion.Recall

/-!
# Editing an accepted suggestion

A chip that is opened for editing becomes the draft, and the draft is completed beside the other
chips (`suggestions_editChip`). Where the chip is an accepted suggestion these are the chips that
were there when it was suggested, so that nothing but the draft itself can keep it from being
suggested again. `edited_chip_is_listed_iff` says when it is: just if its id is found by the token
that was written for it. That is so for each id that needs no escapes, and no others if it is a
node or a location.
-/

namespace FilterBar

open Query

namespace Editor

variable {e : Editor} {n : Nat} {t : Text}

theorem reduce_editChip (h : e.Sound) (hchip : e.chips[n]? = some t) :
    (e.reduce (.editChip n)).chips = e.chips ∧ (e.reduce (.editChip n)).editing = some (n : Int) ∧
      (e.reduce (.editChip n)).draft = t := by
  have hn : n < e.chips.length := (List.getElem?_eq_some_iff.1 hchip).1
  have hhas : e.HasChip n := ⟨by omega, by omega⟩
  have hdraft : e.chips.getD n [] = t := by rw [List.getD_eq_getElem?_getD, hchip, Option.getD_some]
  rw [reduce_eq_next h, next, if_pos hhas]
  exact ⟨rfl, rfl, hdraft⟩

theorem chips_commit (h : e.Sound) (t : Text) :
    (e.commit t).chips[e.cursor.toNat]? = some t ∧
      (e.commit t).chips.eraseIdx e.cursor.toNat = e.before ++ e.behind := by
  have hlen : e.before.length = e.cursor.toNat := by
    have := h.cursor_le
    rw [before, List.length_take]
    omega
  rw [commit, ← hlen, List.eraseIdx_append_of_length_le (Nat.le_refl _)]
  simp

end Editor

namespace Session

open Suggestion

variable {s : Session}

theorem otherChips_eq (h : s.editor.Sound) : s.otherChips = s.editor.before ++ s.editor.behind := by
  unfold otherChips
  cases hed : s.editor.editing with
  | none => exact Editor.chips_of_inserting hed
  | some i =>
    have hi := (h.editing i hed).1
    simp only [if_pos hi, List.eraseIdx_eq_take_drop_succ, Editor.before, Editor.behind, hed,
      h.cursor_of_editing i hed]
    rfl

theorem suggestions_editChip (h : s.editor.Sound) {n : Nat} {t : Text}
    (hchip : s.editor.chips[n]? = some t) (emit : Bool) :
    (s.dispatch (.editChip n) emit).1.suggestions =
      (s.request (Text.strip t) (s.editor.chips.eraseIdx n)).suggestions := by
  obtain ⟨hchips, hediting, hdraft⟩ := Editor.reduce_editChip h hchip
  simp only [suggestions, otherChips, request_dispatch, editor_dispatch, hchips, hediting, hdraft]
  simp

/-- A suggestion that is not typed on is committed, and what is suggested when it is edited
depends on it and on the chips that were there before. -/
theorem suggestions_edit_accepted (h : s.editor.Sound) {chosen : Suggestion}
    (hchosen : chosen ∈ s.suggestions) (hstage : isStage chosen.inserted = false)
    (hne : Text.strip chosen.token ≠ []) (emit : Bool) :
    let edited := ((s.accept chosen).1.dispatch (.editChip s.editor.cursor) emit).1
    edited.editor.draft = Text.strip chosen.token ∧
      edited.suggestions = (s.request (Text.strip chosen.token) s.otherChips).suggestions := by
  intro edited
  have hform := form_of_mem_suggestions hchosen
  have hwhole : ¬ chosen.Continues := fun hc => by
    simp [hform.isStage_inserted_iff.2 (.inl hc)] at hstage
  have haccept : s.accept chosen = s.dispatch (.apply chosen.token) true := by
    rw [accept, acceptText, hstage, if_neg Bool.false_ne_true, hform.inserted_eq_token hwhole]
  obtain ⟨n, hn⟩ := Int.eq_ofNat_of_zero_le h.cursor_nonneg
  obtain ⟨hchip, hothers⟩ := Editor.chips_commit h (Text.strip chosen.token)
  rw [hn, Int.toNat_natCast] at hchip hothers
  have heditor : (s.accept chosen).1.editor = s.editor.commit (Text.strip chosen.token) := by
    rw [haccept, editor_dispatch, Editor.reduce_apply h hne]
  have hsound : (s.accept chosen).1.editor.Sound := (acceptText_moves s _).sound h
  rw [← heditor] at hchip hothers
  constructor
  · show (((s.accept chosen).1.dispatch (.editChip s.editor.cursor) emit).1).editor.draft = _
    rw [editor_dispatch, hn, (Editor.reduce_editChip hsound hchip).2.2]
  · show (((s.accept chosen).1.dispatch (.editChip s.editor.cursor) emit).1).suggestions = _
    rw [hn, suggestions_editChip hsound hchip, hothers, otherChips_eq h, haccept, request_dispatch,
      Text.strip_strip]

/-- The token of an id is suggested for itself just if it is new and the id is found by what is
looked for, as long as the limit leaves room for all entries of the axis. If it was suggested in a
session and accepted, it is suggested again when its chip is edited, just if the id is found. Ids
that are written without escapes are found, and no other nodes and locations. -/
theorem edited_chip_is_listed_iff (axis : Axis) (sign : Sign) (v : Text) :
    let t := pickToken sign axis v
    (∀ r : Request, Text.strip r.fragment = Text.strip t →
      ((r.catalog.listed axis).length : Int) ≤ r.limit →
      (t ∈ r.suggestions.map token ↔ IsFound r.catalog axis v ∧ IsNew r.existing t)) ∧
    (∀ query catalog limit entityLimit echoes cs emit,
      let s := { start query catalog limit entityLimit with echoes := echoes }.calls cs
      ((s.catalog.listed axis).length : Int) ≤ s.limit →
      ∀ chosen ∈ s.suggestions, chosen.token = t → isStage chosen.inserted = false →
        let edited := ((s.accept chosen).1.dispatch (.editChip s.editor.cursor) emit).1
        edited.editor.draft = Text.strip t ∧
          (t ∈ edited.suggestions.map token ↔ IsFound s.catalog axis v)) ∧
    ∀ c : Catalog, v ∈ (c.listed axis).map Prod.fst →
      (IsVerbatim axis v → IsFound c axis v) ∧
        (axis = .node ∨ axis = .location → IsFound c axis v → IsVerbatim axis v) := by
  intro t
  refine ⟨fun r => pickToken_mem_suggestions_iff, ?_,
    fun c hc => ⟨fun hv => ?_, isVerbatim_of_isFound⟩⟩
  · intro query catalog limit entityLimit echoes cs emit s hlimit chosen hchosen htoken hstage
      edited
    have hs : s.editor.Sound := calls_sound (Editor.ofText_sound query false) cs
    have hne : Text.strip chosen.token ≠ [] :=
      htoken ▸ Text.strip_cons_ne_nil (by cases sign <;> decide) _
    obtain ⟨hdraft, hedited⟩ := suggestions_edit_accepted hs hchosen hstage hne emit
    have hnew : IsNew s.otherChips t :=
      htoken ▸ (mem_suggestions_iff.1 (List.mem_map_of_mem hchosen)).2
    rw [htoken] at hdraft hedited
    have hlisted := pickToken_mem_suggestions_iff (r := s.request (Text.strip t) s.otherChips)
      (Text.strip_strip t) hlimit
    refine ⟨hdraft, ?_⟩
    rw [show edited.suggestions = _ from hedited]
    exact hlisted.trans (and_iff_left hnew)
  · obtain ⟨⟨_, target⟩, hmem, rfl⟩ := List.mem_map.1 hc
    exact isFound_of_isVerbatim hmem hv

/-- A location with a blank is written in quotes but without escapes, and is listed for its token
and when its chip is edited. -/
theorem edited_location_is_listed :
    let catalog : Catalog := { locations := ["a b:1", "b"] }
    let t := pickToken .minus .location "a b:1"
    let r : Request := { fragment := t, existing := ["-source:b"], catalog := catalog, limit := 2 }
    let s := (start "x" catalog 2 0).calls [.op (.act (.setDraft "-source:A"))]
    t ∈ r.suggestions.map token ∧ s.suggestions.map token = [t] ∧ ∀ chosen ∈ s.suggestions,
      t ∈ ((s.accept chosen).1.dispatch (.editChip 1) true).1.suggestions.map token := by
  intro catalog t r s
  obtain ⟨hlisted, hedited, hfound⟩ := edited_chip_is_listed_iff .location .minus "a b:1"
  have hfound : IsFound catalog .location "a b:1" := (hfound catalog (by decide)).1 (by decide)
  have hchosen : ∀ chosen ∈ s.suggestions,
      chosen.token = t ∧ isStage chosen.inserted = false := by decide
  refine ⟨(hlisted r rfl (by decide)).2 ⟨hfound, by decide⟩, by decide, fun chosen hmem => ?_⟩
  exact (hedited "x" catalog 2 0 false [.op (.act (.setDraft "-source:A"))] true (by decide) chosen
    hmem (hchosen chosen hmem).1 (hchosen chosen hmem).2).2.2 hfound

/-- A location with a backslash is not listed for the token that was suggested for it. -/
theorem escaped_location_is_not_listed :
    let catalog : Catalog := { locations := ["C:\\a:1"] }
    let t := pickToken .plus .location "C:\\a:1"
    let r : Request := { fragment := t, catalog := catalog, limit := 1 }
    let s := (start "" catalog 1 0).calls [.op (.act (.setDraft "+location:"))]
    t = "+location:\"C:\\\\a:1\"" ∧ (r.catalog.listed .location).length = 1 ∧ r.existing = [] ∧
      r.suggestions = [] ∧ s.suggestions.map token = [t] ∧ ∀ chosen ∈ s.suggestions,
        (s.accept chosen).1.editor.chips = [t] ∧
          ((s.accept chosen).1.dispatch (.editChip 0) true).1.suggestions = [] := by
  decide

end Session

end FilterBar
