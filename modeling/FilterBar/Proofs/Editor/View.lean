import FilterBar.Proofs.Editor.Invariant

/-!
# What an editor shows

In a sound state the query is `before`, the tokens of the draft and `behind`, one after the other:
`text_eq`.

A view action works on the focus, the highlighted chip or the suggestion panel. Highlighting and the
panel never change the query. Gaining and losing the focus end an edit and keep the draft, so that
the chip under edit shows again beside the draft; gaining it also takes the draft to the end.
`Undisturbed` says when the query stays, and `text_reduce_eq_iff` that it stays just then.
-/

namespace FilterBar.Editor

open Query (tokens ofTokens)

variable {e : Editor}

/-! ## View actions -/

def Action.IsPanel : Action → Prop
  | .moveSuggestion .. | .openPanel | .closePanel | .setSuggestion _ => True
  | _ => False

def Action.IsView : Action → Prop
  | .focus | .blur | .selectChip _ => True
  | a => a.IsPanel

/-- When a view action leaves the query as it is: no edit ends, and the draft that goes to the end
passes only chips that it can change places with. -/
def Undisturbed (e : Editor) : Action → Prop
  | .blur => e.editing = none
  | .focus => e.editing = none ∧
      ofTokens (tokens e.draft ++ e.behind) = ofTokens (e.behind ++ tokens e.draft)
  | _ => True

/-- The query that an editor shows for a text that nobody has edited. -/
def normal (query : Text) : Text := (ofText query false).text

instance (e : Editor) (a : Action) : Decidable (e.Undisturbed a) := by
  cases a <;> simp only [Undisturbed] <;> infer_instance

/-! ## Clamping and comparing are not seen -/

/-- An index that points nowhere shows nothing, so that clamping it changes nothing that shows. -/
theorem text_settle (e : Editor) : e.settle.text = e.text := by
  have hclamp : clamp e.chips.length (clamp e.chips.length e.cursor : Int) =
      clamp e.chips.length e.cursor := by
    unfold clamp
    omega
  have hpieces : e.settle.pieces = e.pieces := by
    cases hed : e.editing with
    | none => simp [pieces, settle, hed, hclamp]
    | some i =>
      by_cases hi : e.HasChip i
      · have hi' : e.settle.HasChip i := hi
        have hed' : e.settle.editing = some i := by simp [settle, hed, hi]
        simp only [pieces, hed, hed', if_pos hi, if_pos hi']
        rfl
      · have hed' : e.settle.editing = none := by simp [settle, hed, hi]
        simp only [pieces, hed, hed', if_neg hi]
        simp only [settle, hclamp]
  rw [text, hpieces, text]

theorem text_changed (e new : Editor) : ((changed e new).getD e).text = new.text := by
  unfold changed
  split
  · next h => rw [h]; rfl
  · exact text_settle new

theorem text_reduce_of_isPanel (e : Editor) {a : Action} (ha : a.IsPanel) :
    (e.reduce a).text = e.text := by
  cases a with
  | openPanel | closePanel | setSuggestion _ => exact text_changed e _
  | moveSuggestion delta total =>
    simp only [reduce, step]
    split
    · rfl
    · exact text_changed e _
  | _ => exact ha.elim

theorem text_reduce_selectChip (e : Editor) (i : Option Int) :
    (e.reduce (.selectChip i)).text = e.text :=
  text_changed e _

theorem text_reduce_sync (e : Editor) (query : Text) : (e.reduce (.sync query)).text = normal query :=
  rfl

/-! ## The text of a sound state -/

theorem chips_of_inserting (hed : e.editing = none) : e.chips = e.before ++ e.behind := by
  simp [before, behind, hed]

theorem drop_of_editing (h : e.Sound) {i : Int} (hed : e.editing = some i) :
    ∃ c, Text.Tidy c ∧ e.chips.drop e.cursor.toNat = c :: e.behind := by
  obtain ⟨h₀, h₁⟩ := h.hasChip_cursor hed
  have hlt : e.cursor.toNat < e.chips.length := by omega
  refine ⟨e.chips[e.cursor.toNat], h.tidy _ (List.getElem_mem hlt), ?_⟩
  rw [List.drop_eq_getElem_cons hlt]
  simp [behind, hed]

theorem pieces_eq (h : e.Sound) : e.pieces = e.before ++ tokens e.draft ++ e.behind := by
  have h₁ := h.cursor_le
  cases hed : e.editing with
  | none =>
    have hc : clamp e.chips.length e.cursor = e.cursor.toNat := by unfold clamp; omega
    simp [pieces, before, behind, hed, hc]
  | some i =>
    simp [pieces, before, behind, hed, h.editing i hed, h.cursor_of_editing i hed]

theorem ne_nil_of_mem_pieces (h : e.Sound) {t : Text} (ht : t ∈ e.pieces) : t ≠ [] := by
  rw [pieces_eq h, List.mem_append, List.mem_append] at ht
  rcases ht with (ht | ht) | ht
  · exact (h.tidy t (List.mem_of_mem_take ht)).ne_nil
  · exact (Query.tidy_of_mem_tokens ht).ne_nil
  · exact (h.tidy t (List.mem_of_mem_drop ht)).ne_nil

/-- The query is the chips before the draft, the tokens of the draft and the chips behind it. -/
theorem text_eq (h : e.Sound) : e.text = ofTokens (e.before ++ tokens e.draft ++ e.behind) := by
  have hf : (e.pieces.filter fun t => !t.isEmpty) = e.pieces :=
    List.filter_eq_self.2 fun t ht => by simpa using ne_nil_of_mem_pieces h ht
  rw [text, hf, pieces_eq h]

/-! ## Gaining and losing the focus -/

/-- Losing the focus in the middle of an edit puts the chip back behind the draft. -/
theorem text_blur_of_editing (h : e.Sound) {i : Int} (hed : e.editing = some i) :
    (e.reduce .blur).text ≠ e.text := by
  obtain ⟨c, hc, hdrop⟩ := drop_of_editing h hed
  have hnew : (e.next .blur).behind = c :: e.behind := by
    rw [← hdrop]
    simp [behind, next]
  intro heq
  rw [reduce_eq_next h, text_eq (h.next .blur), text_eq h, hnew] at heq
  have := Query.length_ofTokens_lt (e.before ++ tokens e.draft) e.behind hc.ne_nil
  rw [← heq] at this
  exact Nat.lt_irrefl _ this

theorem text_focus (h : e.Sound) : (e.reduce .focus).text = ofTokens (e.chips ++ tokens e.draft) := by
  rw [reduce_eq_next h, text_eq (h.next .focus)]
  simp [before, behind, next]

theorem text_focus_of_editing (h : e.Sound) {i : Int} (hed : e.editing = some i) :
    (e.reduce .focus).text ≠ e.text := by
  obtain ⟨c, hc, hdrop⟩ := drop_of_editing h hed
  have hchips : e.chips = e.before ++ c :: e.behind := by
    rw [← hdrop, before, List.take_append_drop]
  intro heq
  rw [text_focus h, text_eq h, hchips] at heq
  -- The two queries hold the same tokens in another order, but for the chip.
  have hperm : (e.before ++ c :: e.behind ++ tokens e.draft).Perm
      (e.before ++ tokens e.draft ++ c :: e.behind) := by
    rw [List.append_assoc, List.append_assoc]
    exact List.perm_append_comm.append_left _
  have := Query.length_ofTokens_lt (e.before ++ tokens e.draft) e.behind hc.ne_nil
  rw [← Query.length_ofTokens_perm hperm, heq] at this
  exact Nat.lt_irrefl _ this

theorem text_focus_of_inserting (h : e.Sound) (hed : e.editing = none) :
    (e.reduce .focus).text = e.text ↔
      ofTokens (tokens e.draft ++ e.behind) = ofTokens (e.behind ++ tokens e.draft) := by
  rw [text_focus h, text_eq h, chips_of_inserting hed, List.append_assoc, List.append_assoc,
    Query.ofTokens_append_inj, eq_comm]
  simp [and_comm]

theorem text_reduce_eq_iff (h : e.Sound) {a : Action} (ha : a.IsView) :
    (e.reduce a).text = e.text ↔ e.Undisturbed a := by
  cases a with
  | focus =>
    cases hed : e.editing with
    | none => simp only [text_focus_of_inserting h hed, Undisturbed, hed, true_and]
    | some i => simp [text_focus_of_editing h hed, Undisturbed, hed]
  | blur =>
    cases hed : e.editing with
    | none =>
      have : (e.reduce .blur).text = e.text := by
        rw [reduce_eq_next h, text_eq (h.next .blur), text_eq h]
        simp [before, behind, next, hed]
      simp [this, Undisturbed, hed]
    | some i => simp [text_blur_of_editing h hed, Undisturbed, hed]
  | selectChip i => exact iff_of_true (text_reduce_selectChip e i) trivial
  | moveSuggestion _ _ | openPanel | closePanel | setSuggestion _ =>
    exact iff_of_true (text_reduce_of_isPanel e ha) trivial
  | _ => exact ha.elim

end FilterBar.Editor
