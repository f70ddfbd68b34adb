import FilterBar.Proofs.Session.Dispatch

/-!
# Actions that change nothing

`Editor.Idle` says of each action when it finds everything as it would leave it. Starting again is
never idle, whatever the state it leads to.

An action is taken for no change by a comparison with the old state, which is made before the
indices are settled and not at all where a branch gives up early. Nevertheless it is taken for one
exactly if the state stays as it is, and then the session neither changes nor tells the parent
anything: `no_change_is_noticed`.
-/

namespace FilterBar

namespace Editor

attribute [ext] Editor

variable {e : Editor}

/-- The action finds in the state what it would leave there. -/
def Idle (e : Editor) : Action → Prop
  | .sync _ => False
  | .focus => e.editing = none ∧ e.selected = none ∧ e.cursor = e.chips.length ∧
      e.panelOpen = true ∧ e.suggestion = 0 ∧ e.focused = true
  | .blur => e.editing = none ∧ e.selected = none ∧ e.panelOpen = false ∧ e.focused = false
  | .setDraft draft => e.draft = draft ∧ e.panelOpen = true ∧ e.suggestion = 0
  | .clear => e.chips = [] ∧ e.draft = [] ∧ e.panelOpen = true ∧ e.suggestion = 0
  | .removeChip i => ¬ e.HasChip i
  | .editChip i => e.HasChip i → e.editing = some i ∧ e.selected = none ∧
      e.draft = e.chips.getD i.toNat [] ∧ e.panelOpen = true ∧ e.suggestion = 0 ∧ e.focused = true
  | .selectChip i => e.selected = i.filter fun i => decide (e.HasChip i)
  | .backspace => e.draft ≠ [] ∨ e.editing = none ∧ e.cursor = 0
  | .apply token => Text.strip token = []
  | .moveSuggestion delta total => total ≤ 0 ∨ e.suggestion < total ∧ total ∣ delta
  | .openPanel => e.panelOpen = true
  | .closePanel => e.panelOpen = false
  | .setSuggestion i => e.suggestion = max 0 i

instance (e : Editor) : (a : Action) → Decidable (e.Idle a)
  | .sync _ | .focus | .blur | .setDraft _ | .clear | .removeChip _ | .editChip _ | .selectChip _
  | .backspace | .apply _ | .moveSuggestion _ _ | .openPanel | .closePanel | .setSuggestion _ => by
    simp only [Idle]
    infer_instance

/-! ## Branches that cannot lead back -/

theorem Sound.eq_of_chips_eq_nil (h : e.Sound) (hnil : e.chips = []) :
    e.cursor = 0 ∧ e.editing = none ∧ e.selected = none := by
  have hno : ∀ i, ¬ e.HasChip i := by
    intro i ⟨h₀, h₁⟩
    rw [hnil] at h₁
    exact absurd h₁ (Int.not_lt.2 h₀)
  have h₀ := h.cursor_nonneg
  have h₁ := h.cursor_le
  rw [hnil] at h₁
  exact ⟨Int.le_antisymm h₁ h₀,
    Option.eq_none_iff_forall_ne_some.2 fun i hi => hno i (h.editing i hi),
    Option.eq_none_iff_forall_ne_some.2 fun i hi => hno i (h.selected i hi)⟩

theorem ne_of_chips_eq_eraseIdx {new : Editor} {i : Int} (hi : e.HasChip i)
    (hnew : new.chips = e.chips.eraseIdx i.toNat) : new ≠ e := by
  rintro rfl
  have hlen := length_eraseIdx_of_hasChip hi
  rw [← hnew] at hlen
  omega

theorem commit_ne (e : Editor) (token : Text) : e.commit token ≠ e := fun h => by
  have hcur : e.cursor + 1 = e.cursor := congrArg cursor h
  omega

/-- A highlight comes back to where it was just if it was in the list and has gone round it. -/
theorem fmod_eq_self_iff {i d n : Int} (h₀ : 0 ≤ i) (hn : 0 < n) :
    (i + d + n).fmod n = i ↔ i < n ∧ n ∣ d := by
  rw [Int.fmod_eq_emod_of_nonneg _ (Int.le_of_lt hn), Int.add_emod_right]
  constructor
  · intro h
    have hlt : i < n := h ▸ Int.emod_lt_of_pos _ hn
    refine ⟨hlt, ?_⟩
    have hmod : (i + d) % n = i % n := h.trans (Int.emod_eq_of_lt h₀ hlt).symm
    have hsub : i + d - i = d := by omega
    rw [Int.dvd_iff_emod_eq_zero, ← hsub]
    exact Int.emod_eq_emod_iff_emod_sub_eq_zero.1 hmod
  · rintro ⟨hlt, k, rfl⟩
    rw [Int.add_mul_emod_self_left, Int.emod_eq_of_lt h₀ hlt]

/-! ## No change -/

theorem next_eq_self_iff (h : e.Sound) {a : Action} (ha : ∀ query, a ≠ .sync query) :
    e.next a = e ↔ e.Idle a := by
  cases a with
  | sync query => exact absurd rfl (ha query)
  | focus | blur | setDraft _ | selectChip _ | openPanel | closePanel | setSuggestion _ =>
    simp only [next, Idle, Editor.ext_iff, and_true]
    grind
  | clear =>
    -- The invariant takes care of the indices once there are no chips.
    have hindices := h.eq_of_chips_eq_nil
    simp only [next, Idle, Editor.ext_iff, and_true]
    grind
  | removeChip i =>
    simp only [next, Idle]
    split
    · next hi => exact iff_of_false (ne_of_chips_eq_eraseIdx hi rfl) (not_not_intro hi)
    · next hi => exact iff_of_true rfl hi
  | editChip i =>
    simp only [next, Idle]
    split
    · next hi =>
      -- A chip that is under edit already has the cursor before it.
      have hcur := h.cursor_of_editing i
      simp only [Editor.ext_iff, true_and]
      grind
    · next hi => exact iff_of_true rfl fun hchip => absurd hchip hi
  | backspace =>
    have h₀ := h.cursor_nonneg
    have h₁ := h.cursor_le
    simp only [next, Idle]
    split
    · next hd => exact iff_of_true rfl (.inl hd)
    · next hd =>
      split
      · next hed =>
        refine iff_of_false (ne_of_chips_eq_eraseIdx (h.hasChip_cursor hed) rfl) ?_
        simp [hd, hed]
      · next hed =>
        split
        · next hc => exact iff_of_true rfl (.inr ⟨hed, by omega⟩)
        · next hc =>
          have hchip : e.HasChip (e.cursor - 1) := ⟨by omega, by omega⟩
          refine iff_of_false (ne_of_chips_eq_eraseIdx hchip rfl) ?_
          rintro (hd' | ⟨-, hcur⟩)
          · exact hd hd'
          · omega
  | apply token =>
    simp only [next, Idle]
    split
    · next ht => exact iff_of_true rfl ht
    · next ht => exact iff_of_false (commit_ne e _) ht
  | moveSuggestion delta total =>
    simp only [next, Idle]
    split
    · next ht => exact iff_of_true rfl (.inl ht)
    · next ht =>
      rw [or_iff_right ht, ← fmod_eq_self_iff h.suggestion_nonneg (by omega)]
      simp only [Editor.ext_iff, true_and, and_true]

theorem step_eq_none_iff (h : e.Sound) (a : Action) : e.step a = none ↔ e.Idle a := by
  cases a with
  | sync query => exact iff_of_false nofun id
  | _ =>
    rw [step_eq_next h (by simp), moved, ite_eq_left_iff, ← next_eq_self_iff h (by simp)]
    simp

end Editor

namespace Session

/-- In a state that came from a text by actions, an action other than starting again is taken for no
change just if it leaves the state as it is, and that is when it is idle. A session then stays what
it is. Otherwise it shows another state, and tells the parent of its text unless the parent holds
it. -/
theorem no_change_is_noticed (query : Text) (focused : Bool) (as : List Editor.Action)
    {a : Editor.Action} (ha : ∀ query, a ≠ .sync query) :
    let e := (Editor.ofText query focused).run as
    (e.step a = none ↔ e.reduce a = e) ∧ (e.reduce a = e ↔ e.Idle a) ∧
      ∀ s : Session, s.editor = e → ∀ emit,
        (e.reduce a = e → s.dispatch a emit = (s, false)) ∧
        (e.reduce a ≠ e → (s.showing a).editor ≠ s.editor ∧ s.dispatch a emit =
          (if emit = true ∧ (s.showing a).text ≠ s.held then (s.showing a).tell (s.showing a).text
            else s.showing a, true)) := by
  intro e
  have h : e.Sound := Editor.run_ofText_sound query focused as
  have hidle : e.reduce a = e ↔ e.Idle a := by
    rw [Editor.reduce_eq_next h]
    exact Editor.next_eq_self_iff h ha
  have hnone : e.step a = none ↔ e.reduce a = e := (Editor.step_eq_none_iff h a).trans hidle.symm
  refine ⟨hnone, hidle, ?_⟩
  rintro s hs emit
  rw [← hs] at hnone ⊢
  refine ⟨fun hsame => ?_, fun hother => ⟨hother, ?_⟩⟩
  · have hshowing : s.showing a = s := by rw [showing, hsame]
    rw [dispatch_eq, hnone.2 hsame, hshowing]
    rfl
  · have hsome : (s.editor.step a).isSome = true := Option.isSome_iff_ne_none.2 (mt hnone.1 hother)
    simp only [dispatch_eq, hsome, true_and]

/-- The highlight goes round a list of two and back to where it was. Round a list of three it does
not come back. -/
theorem no_change_round_list :
    let e := (Editor.ofText "a" true).run [.setSuggestion 1]
    let s : Session := { editor := e, held := "a" }
    (∀ query, Editor.Action.moveSuggestion (-4) 2 ≠ .sync query) ∧
      e.step (.moveSuggestion (-4) 2) = none ∧ e.reduce (.moveSuggestion (-4) 2) = e ∧
      s.dispatch (.moveSuggestion (-4) 2) true = (s, false) ∧
      e.reduce (.moveSuggestion (-4) 3) ≠ e ∧
      s.dispatch (.moveSuggestion (-4) 3) true = (s.showing (.moveSuggestion (-4) 3), true) := by
  intro e s
  obtain ⟨hnone, hidle, hsession⟩ := no_change_is_noticed "a" true [.setSuggestion 1]
    (a := .moveSuggestion (-4) 2) nofun
  obtain ⟨-, hidle', hsession'⟩ := no_change_is_noticed "a" true [.setSuggestion 1]
    (a := .moveSuggestion (-4) 3) nofun
  have hsame : e.reduce (.moveSuggestion (-4) 2) = e := hidle.2 (by decide)
  have hother : e.reduce (.moveSuggestion (-4) 3) ≠ e := mt hidle'.1 (by decide)
  have hheld : (s.showing (.moveSuggestion (-4) 3)).text = s.held := by decide
  refine ⟨nofun, hnone.2 hsame, hsame, (hsession s rfl true).1 hsame, hother, ?_⟩
  rw [((hsession' s rfl true).2 hother).2, if_neg fun htold => htold.2 hheld]

end Session

end FilterBar
