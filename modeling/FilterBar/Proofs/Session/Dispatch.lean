import FilterBar.Session
import FilterBar.Proofs.Editor.View

/-!
# What a dispatch does

`dispatch_eq` says what an action does to a session: the new state shows, and the parent is told of
its text if something changed and it holds another. An action run without telling does the first
part only: `dispatch_quiet`.

The first consequence is about view actions: the parent hears of one just if the query changes.
-/

namespace FilterBar.Session

variable {s : Session}

/-- The session with the action run on its editor, before the parent hears of it. -/
def showing (s : Session) (a : Editor.Action) : Session := { s with editor := s.editor.reduce a }

theorem tell_eq (s : Session) (query : Text) :
    s.tell query = { s with
      pending := if s.echoes then none else some query
      held := query
      notices := s.notices ++ .told query :: if s.echoes then [.echoed false] else [] } := by
  by_cases h : s.echoes <;> simp [tell, receive, h]

/-- Everything that an action does: the new state shows, and the parent is told of its text if
something changed, telling is on and the parent holds another text. -/
theorem dispatch_eq (s : Session) (a : Editor.Action) (emit : Bool) :
    s.dispatch a emit =
      (if (s.editor.step a).isSome ∧ emit = true ∧ (s.showing a).text ≠ s.held then
          (s.showing a).tell (s.showing a).text
        else s.showing a, (s.editor.step a).isSome) := by
  unfold dispatch showing Editor.reduce
  cases s.editor.step a with
  | none => rfl
  | some e => simp

theorem dispatch_quiet (s : Session) (a : Editor.Action) : (s.dispatch a false).1 = s.showing a := by
  simp [dispatch_eq]

theorem dispatch_emit (s : Session) (a : Editor.Action) :
    (s.dispatch a true).1 = s.showing a ∧
        (s.editor.reduce a = s.editor ∨ (s.showing a).text = s.held) ∨
      (s.dispatch a true).1 = (s.showing a).tell (s.showing a).text ∧
        (s.showing a).text ≠ s.held := by
  rw [dispatch_eq]
  split
  · next htold => exact .inr ⟨rfl, htold.2.2⟩
  · next hquiet =>
    refine .inl ⟨rfl, ?_⟩
    cases h : s.editor.step a with
    | none =>
      left
      rw [Editor.reduce, h]
      rfl
    | some e => exact .inr (Decidable.of_not_not fun ht => hquiet ⟨by rw [h]; rfl, rfl, ht⟩)

theorem editor_dispatch (s : Session) (a : Editor.Action) (emit : Bool) :
    (s.dispatch a emit).1.editor = s.editor.reduce a := by
  rw [dispatch_eq]
  split
  · rw [tell_eq]
    rfl
  · rfl

theorem request_dispatch (s : Session) (a : Editor.Action) (emit : Bool) :
    (s.dispatch a emit).1.request = s.request := by
  rw [dispatch_eq]
  split
  · rw [tell_eq]
    rfl
  · rfl

theorem notices_dispatch_iff (h : s.text = s.held) (a : Editor.Action) :
    (s.dispatch a true).1.notices = s.notices ↔ (s.editor.reduce a).text = s.editor.text := by
  rcases dispatch_emit s a with ⟨hs, hsame | htext⟩ | ⟨hs, htext⟩
  · rw [hs, hsame]
    exact iff_of_true rfl rfl
  · rw [hs]
    exact iff_of_true rfl (htext.trans h.symm)
  · rw [hs, tell_eq]
    refine iff_of_false ?_ fun ht => htext (ht.trans h)
    simp [showing]

/-! ## View actions -/

/-- Focusing, leaving, highlighting and the panel change the query, and make a parent that holds it
hear of it, just if they disturb the state: when they end an edit, or when the draft goes past chips
that it cannot change places with. -/
theorem view_action_keeps_query_iff (query : Text) (focused : Bool) (as : List Editor.Action)
    {a : Editor.Action} (ha : a.IsView) :
    let e := (Editor.ofText query focused).run as
    ((e.reduce a).text = e.text ↔ e.Undisturbed a) ∧
      ∀ s : Session, s.editor = e → s.text = s.held →
        ((s.dispatch a true).1.notices = s.notices ↔ e.Undisturbed a) := by
  intro e
  have hiff := Editor.text_reduce_eq_iff ((Editor.ofText_sound query focused).run as) ha
  refine ⟨hiff, fun s hs ht => ?_⟩
  rw [notices_dispatch_iff ht, hs]
  exact hiff

/-- A draft may go past a chip that reads like it. -/
theorem focus_keeps_query_past_equal_chip :
    let e := (Editor.ofText "a b" false).run [.editChip 0, .apply "x", .setDraft "b"]
    let s : Session := { editor := e, held := e.text }
    Editor.Action.focus.IsView ∧ (e.reduce .focus).text = e.text ∧
      s.text = s.held ∧ (s.dispatch .focus true).1.notices = s.notices := by
  intro e s
  have h := view_action_keeps_query_iff "a b" false [.editChip 0, .apply "x", .setDraft "b"]
    (a := .focus) trivial
  have hu : e.Undisturbed .focus := by decide
  exact ⟨trivial, h.1.2 hu, rfl, (h.2 s rfl rfl).2 hu⟩

/-- Losing the focus in the middle of an edit shows the chip under edit twice. -/
theorem blur_repeats_chip_under_edit :
    let e := (Editor.ofText "a b" false).run [.editChip 0]
    Editor.Action.blur.IsView ∧ e.text = "a b" ∧ (e.reduce .blur).text = "a a b" :=
  ⟨trivial, by decide, by decide⟩

end FilterBar.Session
