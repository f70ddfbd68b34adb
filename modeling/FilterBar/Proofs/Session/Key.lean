import FilterBar.Proofs.Session.Dispatch

/-!
# What a key does

A key is passed on or sets off one action, of which the parent hears or does not. `keyEffect` finds
out which it is, key by key, and `handleKey_eq` says that handling a key is running its effect.
Everything else about keys is read off `keyEffect`.

In a sound state every key has an effect (`keyEffect_eq_ok`): the highlighted candidate that Enter
and Tab accept is there.
-/

namespace FilterBar.Session

variable {s : Session}

/-! ## Effects -/

/-- What a key sets off. -/
inductive KeyEffect where
  /-- Nothing. The key is left to others. -/
  | passed
  /-- An action of which the parent hears. -/
  | told (a : Editor.Action)
  /-- An action of which the parent does not hear. -/
  | quiet (a : Editor.Action)

/-- The session after the effect, and whether the key is taken. -/
def KeyEffect.on (s : Session) : KeyEffect → Session × Bool
  | .passed => (s, false)
  | .told a => ((s.dispatch a true).1, true)
  | .quiet a => ((s.dispatch a false).1, true)

/-- The action that takes a text: a stage becomes the draft, anything else a chip. -/
def taking (t : Text) : Editor.Action := if isStage t then .setDraft t else .apply t

theorem acceptText_eq (s : Session) (t : Text) : s.acceptText t = s.dispatch (taking t) true := by
  unfold acceptText taking
  split <;> rfl

def acceptEffect (s : Session) : Except Error KeyEffect :=
  match Cut.at? s.active s.suggestions with
  | some chosen => .ok (.told (taking chosen.inserted))
  | none => .error (.outOfRange s.active)

/-- How far a key moves the highlight: the arrows, and Tab with Shift in place of the upper one. -/
def arrow? (key : Text) (shift : Bool) : Option Int :=
  if key = "ArrowDown" then some 1
  else if key = "ArrowUp" ∨ key = "Tab" ∧ shift = true then some (-1)
  else none

/-- The effect of the keys that work the panel. While the panel is out of sight, Tab opens it and the
others are passed on. -/
def panelEffect (s : Session) (key : Text) (shift : Bool) : Except Error KeyEffect :=
  if s.panelOpen then
    match arrow? key shift with
    | some delta => .ok (.quiet (.moveSuggestion delta s.suggestions.length))
    | none =>
      if key = "Escape" then .ok (.quiet .closePanel)
      else if key = "Enter" ∨ key = "Tab" then s.acceptEffect
      else .ok .passed
  else if key = "Tab" then .ok (.quiet .openPanel)
  else .ok .passed

def keyEffect (s : Session) (key : Text) (shift : Bool) : Except Error KeyEffect :=
  let e := s.editor
  if key = "Backspace" then
    .ok (if e.draft = [] ∧ (0 < e.cursor ∨ e.editing.isSome) then .told .backspace else .passed)
  else if key = "Delete" then
    match e.selected with
    | some i => .ok (if e.draft = [] then .told (.removeChip i) else .passed)
    | none => .ok .passed
  else s.panelEffect key shift

/-! ## Handling a key -/

theorem panelOpen_eq (s : Session) :
    s.panelOpen = !(!s.editor.panelOpen || s.suggestions.isEmpty) := by
  cases h : s.suggestions <;> simp [panelOpen, Editor.showsPanel, h]

theorem acceptActive_eq (s : Session) :
    handleKey.acceptActive s s.suggestions = s.acceptEffect.map (KeyEffect.on s) := by
  unfold handleKey.acceptActive acceptEffect acceptAmong active
  cases Cut.at? (s.activeAmong s.suggestions.length) s.suggestions with
  | none => rfl
  | some chosen => simp only [accept, acceptText_eq]; rfl

theorem panelKey_eq (s : Session) (key : Text) (shift : Bool) :
    handleKey.panelKey s key shift s.suggestions =
      (s.panelEffect key shift).map (KeyEffect.on s) := by
  unfold handleKey.panelKey panelEffect
  rw [panelOpen_eq]
  have haccept := acceptActive_eq s
  generalize handleKey.acceptActive s s.suggestions = accepted, s.acceptEffect = effect
    at haccept ⊢
  subst haccept
  by_cases htab : key = "Tab"
  · subst htab
    cases !s.editor.panelOpen || s.suggestions.isEmpty <;> cases shift <;> rfl
  · by_cases hdown : key = "ArrowDown"
    · subst hdown
      cases !s.editor.panelOpen || s.suggestions.isEmpty <;> rfl
    · by_cases hup : key = "ArrowUp"
      · subst hup
        cases !s.editor.panelOpen || s.suggestions.isEmpty <;> rfl
      · simp only [arrow?, htab, hdown, hup, false_and, or_false, if_false,
          apply_ite (Except.map (KeyEffect.on s))]
        cases !s.editor.panelOpen || s.suggestions.isEmpty <;> rfl

theorem handleKey_eq (s : Session) (key : Text) (shift : Bool) :
    s.handleKey key shift = (s.keyEffect key shift).map (KeyEffect.on s) := by
  have hpassed : ∀ k : Text, k = "Backspace" ∨ k = "Delete" →
      handleKey.panelKey s k shift s.suggestions = .ok (s, false) := by
    rintro k (rfl | rfl)
    all_goals
      rw [panelKey_eq]
      unfold panelEffect
      split <;> rfl
  unfold handleKey keyEffect
  by_cases hback : key = "Backspace"
  · have hne : ¬ ("Backspace" : Text) = "Delete" := by decide
    subst hback
    simp only [true_and, hne, false_and, if_true, if_false, hpassed _ (.inl rfl)]
    split
    · rfl
    · cases s.editor.selected <;> rfl
  · simp only [hback, false_and, if_false]
    by_cases hdel : key = "Delete"
    · subst hdel
      simp only [true_and, if_true, hpassed _ (.inr rfl)]
      cases s.editor.selected with
      | none => rfl
      | some i =>
        simp only
        split <;> rfl
    · simp only [hdel, false_and, if_false, panelKey_eq]
      cases s.editor.selected <;> rfl

/-! ## No key fails -/

theorem exists_at? {α : Type} {i : Int} {xs : List α} (h₀ : 0 ≤ i) (h : i < xs.length) :
    ∃ x ∈ xs, Cut.at? i xs = some x := by
  have hlt : i.toNat < xs.length := by omega
  refine ⟨xs[i.toNat], List.getElem_mem hlt, ?_⟩
  simp only [Cut.at?, if_neg (Int.not_lt.2 h₀), List.getElem?_eq_getElem hlt]

theorem suggestions_ne_nil (h : s.panelOpen = true) : s.suggestions ≠ [] := by
  intro hnil
  simp [panelOpen_eq, hnil] at h

/-- The highlight that shows is the stored one, or the last candidate if that is past the end. -/
theorem active_eq (h : s.panelOpen = true) :
    s.active = min s.editor.suggestion (s.suggestions.length - 1) := by
  have hpos := List.length_pos_of_ne_nil (suggestions_ne_nil h)
  rw [active, activeAmong, if_neg (by omega)]

theorem acceptEffect_eq_ok (hs : s.editor.Sound) (h : s.panelOpen = true) :
    ∃ chosen ∈ s.suggestions, s.acceptEffect = .ok (.told (taking chosen.inserted)) := by
  have hpos := List.length_pos_of_ne_nil (suggestions_ne_nil h)
  have h₀ := hs.suggestion_nonneg
  have hactive := active_eq h
  have hnonneg : 0 ≤ s.active := by omega
  have hlt : s.active < s.suggestions.length := by omega
  obtain ⟨chosen, hmem, hc⟩ := exists_at? hnonneg hlt
  refine ⟨chosen, hmem, ?_⟩
  unfold acceptEffect
  rw [hc]

theorem panelEffect_eq_ok (hs : s.editor.Sound) (key : Text) (shift : Bool) :
    ∃ effect, s.panelEffect key shift = .ok effect := by
  unfold panelEffect
  split
  · next hopen =>
    obtain ⟨chosen, -, haccept⟩ := acceptEffect_eq_ok hs hopen
    rw [haccept]
    repeat' split
    all_goals exact ⟨_, rfl⟩
  · split <;> exact ⟨_, rfl⟩

theorem keyEffect_eq_ok (hs : s.editor.Sound) (key : Text) (shift : Bool) :
    ∃ effect, s.keyEffect key shift = .ok effect := by
  unfold keyEffect
  simp only
  split
  · exact ⟨_, rfl⟩
  · split
    · split <;> exact ⟨_, rfl⟩
    · exact panelEffect_eq_ok hs key shift

theorem handleKey_eq_ok (hs : s.editor.Sound) (key : Text) (shift : Bool) :
    ∃ effect, s.keyEffect key shift = .ok effect ∧ s.handleKey key shift = .ok (effect.on s) := by
  obtain ⟨effect, heffect⟩ := keyEffect_eq_ok hs key shift
  exact ⟨effect, heffect, by rw [handleKey_eq, heffect]; rfl⟩

/-! ## What the parent does not hear -/

variable {key : Text} {shift : Bool} {a : Editor.Action}

theorem acceptEffect_ne_quiet : s.acceptEffect ≠ .ok (.quiet a) := by
  unfold acceptEffect
  split <;> exact nofun

theorem isPanel_of_panelEffect (h : s.panelEffect key shift = .ok (.quiet a)) : a.IsPanel := by
  unfold panelEffect at h
  split at h
  · split at h
    · cases h
      trivial
    · split at h
      · cases h
        trivial
      · split at h
        · exact absurd h acceptEffect_ne_quiet
        · cases h
  · split at h
    · cases h
      trivial
    · cases h

theorem isPanel_of_keyEffect (h : s.keyEffect key shift = .ok (.quiet a)) : a.IsPanel := by
  unfold keyEffect at h
  simp only at h
  split at h
  · split at h <;> cases h
  · split at h
    · split at h
      · split at h <;> cases h
      · cases h
    · exact isPanel_of_panelEffect h

end FilterBar.Session
