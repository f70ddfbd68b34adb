import FilterBar.Proofs.Session.Run
import FilterBar.Proofs.Editor.Highlight

/-!
# The chip that Delete removes

The user highlights a chip, goes on working, and presses Delete. `highlight_follows_iff` says when
that removes the chip that was highlighted: when no chip has been put in at or before it meanwhile.
Otherwise the index has stayed while the chip was pushed on, and Delete takes a chip before it.
-/

namespace FilterBar.Editor

variable {e : Editor}

/-! ## Runs without a choice -/

/-- The highlight is on the chip that it began on just if it never stayed in place while that chip
was pushed on. -/
theorem followRun_eq_some_iff (h : e.Sound) {bs : List Action} (hbs : ∀ b ∈ bs, ¬ b.IsChoice)
    {i j : Int} (hi : e.selected = some i) (hj : (e.run bs).selected = some j) :
    e.followRun bs i = some j ↔ ∀ pre a, pre ++ [a] <+: bs → ¬ (e.run pre).Displaces a := by
  induction bs generalizing e i with
  | nil =>
    cases hi.symm.trans hj
    exact iff_of_true rfl (by simp)
  | cons b bs ih =>
    have hbs' : ∀ b ∈ bs, ¬ b.IsChoice := fun c hc => hbs c (by simp [hc])
    obtain ⟨m, hm⟩ := exists_selected_of_run (h.reduce b) hbs' hj
    obtain ⟨i', hi', hkeeps⟩ := selected_reduce h (hbs b (by simp)) hm
    cases hi.symm.trans hi'
    have hrun : e.followRun (b :: bs) i =
        ((e.edit b).follow i).bind ((e.reduce b).followRun bs) := rfl
    rw [Session.forall_next_cons, hrun]
    rcases hkeeps with ⟨hstill, hfollow⟩ | ⟨hdisp, hfollow, rfl⟩
    · rw [hfollow, Option.bind_some, ih (h.reduce b) hbs' hm hj]
      exact (and_iff_right hstill).symm
    · -- The chip is one place ahead of the highlight from here on.
      rw [hfollow, Option.bind_some]
      refine iff_of_false (fun hk => ?_) fun hall => hall.1 hdisp
      have := lt_of_followRun (h.reduce b) hbs' hm hj hk (by omega)
      omega

end FilterBar.Editor

namespace FilterBar.Session

variable {s : Session}

/-! ## The Delete key -/

theorem handleKey_delete (hs : s.editor.Sound) {j : Int} (hj : s.editor.selected = some j)
    (hd : s.editor.draft = []) (shift : Bool) :
    ∃ t, s.handleKey "Delete" shift = .ok (t, true) ∧
      t.editor.chips = s.editor.chips.eraseIdx j.toNat := by
  have hchip := hs.selected j hj
  refine ⟨(s.dispatch (.removeChip j) true).1, ?_, ?_⟩
  · have heffect : s.keyEffect "Delete" shift = .ok (.told (.removeChip j)) := by
      have hkey : ¬ ("Delete" : Text) = "Backspace" := by decide
      simp only [keyEffect, if_neg hkey, if_true, hj, hd]
    rw [handleKey_eq, heffect]
    rfl
  · rw [editor_dispatch, Editor.chips_reduce hs]
    simp [Editor.edit, hchip, ChipEdit.apply]

/-- Let a chip be highlighted in a state that came from a text by actions, and let a chip be
highlighted still after actions that choose none. It is the same chip just if none of them put a
chip in at or before the highlighted one. The edits by which chips are followed are those that the
actions make, a chip that is followed is the old one or the one put in its place, and Delete takes
out the chip that is highlighted at the end. -/
theorem highlight_follows_iff (query : Text) (focused : Bool) (as bs : List Editor.Action)
    (hbs : ∀ b ∈ bs, ¬ b.IsChoice) :
    let e := (Editor.ofText query focused).run as
    (∀ a, (e.reduce a).chips = (e.edit a).apply e.chips ∧
      ∀ n < e.chips.length, (∀ chip, e.edit a ≠ .replace n chip) →
        ∀ k, (e.edit a).follow n = some k → (e.reduce a).chips[k.toNat]? = e.chips[n]?) ∧
      ∀ i j, e.selected = some i → (e.run bs).selected = some j →
        (e.followRun bs i = some j ↔
          ∀ pre a, pre ++ [a] <+: bs → ¬ (e.run pre).Displaces a) ∧
        ∀ s : Session, s.editor = e.run bs → s.editor.draft = [] → ∀ shift,
          ∃ t, s.handleKey "Delete" shift = .ok (t, true) ∧
            t.editor.chips = s.editor.chips.eraseIdx j.toNat := by
  intro e
  have he : e.Sound := Editor.run_ofText_sound query focused as
  refine ⟨fun a => ⟨Editor.chips_reduce he a, fun n hn hne k hk => ?_⟩, fun i j hi hj => ⟨?_, ?_⟩⟩
  · rw [Editor.chips_reduce he]
    exact ChipEdit.getElem?_follow hn hk hne
  · exact Editor.followRun_eq_some_iff he hbs hi hj
  · intro s hs hd shift
    exact handleKey_delete (hs ▸ he.run bs) (hs ▸ hj) hd shift

/-- A chip that is replaced stays highlighted. -/
theorem highlight_follows_replaced_chip :
    let e := (Editor.ofText "a b" false).run [.editChip 1, .selectChip (some 1)]
    (∀ b ∈ [Editor.Action.apply "x"], ¬ b.IsChoice) ∧ e.selected = some 1 ∧
      (e.run [.apply "x"]).selected = some 1 ∧ e.followRun [.apply "x"] 1 = some 1 := by
  intro e
  have hbs : ∀ b ∈ [Editor.Action.apply "x"], ¬ b.IsChoice := by simp [Editor.Action.IsChoice]
  have hi : e.selected = some 1 := by decide
  have hj : (e.run [.apply "x"]).selected = some 1 := by decide
  have h := highlight_follows_iff "a b" false [.editChip 1, .selectChip (some 1)] [.apply "x"] hbs
  refine ⟨hbs, hi, hj, ((h.2 1 1 hi hj).1).2 fun pre a hpre => ?_⟩
  obtain ⟨rfl, rfl⟩ : pre = [] ∧ a = .apply "x" := by
    cases pre with
    | nil => simpa using hpre
    | cons b pre => simp at hpre
  have hedit : (e.run []).edit (.apply "x") = .replace 1 "x" := by decide
  exact Editor.not_displaces fun n chip h => nomatch hedit.symm.trans h

/-- A chip put in before the highlighted one takes its highlight, and goes when Delete is pressed. -/
theorem highlight_falls_on_inserted_chip :
    let e := (Editor.ofText "a b" false).run [.editChip 0, .apply "x", .selectChip (some 1)]
    ¬ (Editor.Action.apply "y").IsChoice ∧ e.chips = ["x", "b"] ∧ e.selected = some 1 ∧
      (e.reduce (.apply "y")).chips = ["x", "y", "b"] ∧
      (e.reduce (.apply "y")).selected = some 1 ∧ (e.edit (.apply "y")).follow 1 = some 2 :=
  ⟨not_false, by decide, by decide, by decide, by decide, by decide⟩

end FilterBar.Session
