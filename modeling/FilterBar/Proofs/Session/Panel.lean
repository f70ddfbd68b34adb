import FilterBar.Proofs.Session.Run

/-!
# Keys that work the panel

The arrows, Escape, Tab with Shift, and Tab that opens the panel work the panel and nothing else.
They leave the chips, the draft, the cursor and the highlighted chip as they are, and the parent
does not hear of them: `keys_keep_frame`.

The highlight that is stored may stand past the end of the candidates, when there were more of them
before. What shows is then the last candidate, but the arrows count on from the stored one. They
still go round the list from what shows just if the stored highlight is in the list, or comes to
the last candidate when it is counted round the list: `arrows_step_highlight_iff`.
-/

namespace FilterBar

namespace Editor

variable {e : Editor} {a : Action}

theorem reduce_of_isPanel (h : e.Sound) (ha : a.IsPanel) : ∃ panelOpen suggestion,
    e.reduce a = { e with panelOpen := panelOpen, suggestion := suggestion } := by
  rw [reduce_eq_next h]
  cases a with
  | moveSuggestion delta total =>
    simp only [next]
    split
    · exact ⟨e.panelOpen, e.suggestion, rfl⟩
    · exact ⟨e.panelOpen, _, rfl⟩
  | openPanel => exact ⟨true, e.suggestion, rfl⟩
  | closePanel => exact ⟨false, e.suggestion, rfl⟩
  | setSuggestion i => exact ⟨e.panelOpen, max 0 i, rfl⟩
  | _ => exact ha.elim

end Editor

namespace Session

variable {s : Session} {key : Text} {shift : Bool} {d : Int}

/-! ## What the panel keys leave alone -/

/-- The keys that work the panel and accept nothing. -/
def WorksPanel (s : Session) (key : Text) (shift : Bool) : Prop :=
  key = "ArrowDown" ∨ key = "ArrowUp" ∨ key = "Escape" ∨
    key = "Tab" ∧ (shift = true ∨ s.editor.panelOpen = false ∨ s.suggestions = [])

theorem keyEffect_ne_told (h : s.WorksPanel key shift) (a : Editor.Action) :
    s.keyEffect key shift ≠ .ok (.told a) := by
  rcases h with rfl | rfl | rfl | ⟨rfl, h⟩
  · show s.panelEffect "ArrowDown" shift ≠ _
    unfold panelEffect
    split <;> exact nofun
  · show s.panelEffect "ArrowUp" shift ≠ _
    unfold panelEffect
    split <;> exact nofun
  · show s.panelEffect "Escape" shift ≠ _
    unfold panelEffect
    split <;> exact nofun
  · show s.panelEffect "Tab" shift ≠ _
    unfold panelEffect
    split
    · next hopen =>
      rcases h with rfl | hclosed | hnil
      · exact nofun
      · simp [panelOpen_eq, hclosed] at hopen
      · exact absurd hnil (suggestions_ne_nil hopen)
    · exact nofun

theorem exists_on_eq (hs : s.editor.Sound) (h : s.WorksPanel key shift) {effect : KeyEffect}
    (heffect : s.keyEffect key shift = .ok effect) :
    (effect.on s).1.text = s.text ∧ ∃ panelOpen suggestion, (effect.on s).1 =
      { s with editor := { s.editor with panelOpen := panelOpen, suggestion := suggestion } } := by
  cases effect with
  | passed => exact ⟨rfl, s.editor.panelOpen, s.editor.suggestion, rfl⟩
  | told a => exact absurd heffect (keyEffect_ne_told h a)
  | quiet a =>
    have ha := isPanel_of_keyEffect heffect
    obtain ⟨panelOpen, suggestion, hreduce⟩ := Editor.reduce_of_isPanel hs ha
    simp only [KeyEffect.on, dispatch_quiet]
    refine ⟨Editor.text_reduce_of_isPanel s.editor ha, panelOpen, suggestion, ?_⟩
    rw [showing, hreduce]

/-- No key fails, whatever state a session has come to, and each does what `keyEffect` says. A key
that is not taken leaves the session as it is. One that works the panel leaves the session as it is
but for the state of the panel. -/
theorem keys_keep_frame (query : Text) (catalog : Catalog) (limit entityLimit : Int)
    (echoes : Bool) (cs : List Call) (key : Text) (shift : Bool) :
    let s := { start query catalog limit entityLimit with echoes := echoes }.calls cs
    ∃ t taken, s.handleKey key shift = .ok (t, taken) ∧
      (∃ effect, s.keyEffect key shift = .ok effect ∧ effect.on s = (t, taken)) ∧
      (taken = false → t = s) ∧
      (s.WorksPanel key shift → t.text = s.text ∧ ∃ panelOpen suggestion,
        t = { s with editor :=
          { s.editor with panelOpen := panelOpen, suggestion := suggestion } }) := by
  intro s
  have hs : s.editor.Sound := calls_sound (Editor.ofText_sound query false) cs
  obtain ⟨effect, heffect, hkey⟩ := handleKey_eq_ok hs key shift
  refine ⟨(effect.on s).1, (effect.on s).2, hkey, ⟨effect, heffect, rfl⟩, fun htaken => ?_,
    fun hpanel => exists_on_eq hs hpanel heffect⟩
  cases effect with
  | passed => rfl
  | told a => cases htaken
  | quiet a => cases htaken

/-- Going back through the candidates for a chip under edit keeps the edit and the query. -/
theorem shift_tab_keeps_edit :
    let s := (start "-crate:a b" { crates := [⟨"a", "a"⟩, ⟨"ab", "ab"⟩] } 12 3).calls
      [.op (.act (.editChip 0)), .op (.act (.setDraft "-crate:"))]
    s.WorksPanel "Tab" true ∧ ∃ t taken, s.handleKey "Tab" true = .ok (t, taken) ∧
      t.text = "-crate: b" ∧ t.editor.editing = some 0 ∧ t.notices = [.told "-crate: b"] := by
  intro s
  have hpanel : s.WorksPanel "Tab" true := .inr (.inr (.inr ⟨rfl, .inl rfl⟩))
  obtain ⟨t, taken, hkey, -, -, hframe⟩ := keys_keep_frame "-crate:a b"
    { crates := [⟨"a", "a"⟩, ⟨"ab", "ab"⟩] } 12 3 false
    [.op (.act (.editChip 0)), .op (.act (.setDraft "-crate:"))] "Tab" true
  obtain ⟨htext, panelOpen, suggestion, rfl⟩ := hframe hpanel
  have hediting : s.editor.editing = some 0 := by decide
  have hnotices : s.notices = [.told "-crate: b"] := by decide
  exact ⟨hpanel, _, taken, hkey, htext.trans (by decide), hediting, hnotices⟩

/-! ## Round the list -/

/-- The session with the stored highlight moved on by `d`, round the candidates. -/
def turn (s : Session) (d : Int) : Session :=
  { s with editor :=
    { s.editor with suggestion := (s.editor.suggestion + d) % s.suggestions.length } }

theorem handleKey_arrow (hs : s.editor.Sound) (hopen : s.panelOpen = true)
    (h : arrow? key shift = some d) : s.handleKey key shift = .ok (s.turn d, true) := by
  have hback : key ≠ "Backspace" := by
    rintro rfl
    cases h
  have hdel : key ≠ "Delete" := by
    rintro rfl
    cases h
  have hpos := List.length_pos_of_ne_nil (suggestions_ne_nil hopen)
  have hturn : (s.editor.suggestion + d + s.suggestions.length).fmod s.suggestions.length =
      (s.editor.suggestion + d) % s.suggestions.length := by
    rw [Int.fmod_eq_emod_of_nonneg _ (by omega), Int.add_emod_right]
  rw [handleKey_eq, keyEffect, if_neg hback, if_neg hdel, panelEffect, if_pos hopen, h]
  simp only [Except.map, KeyEffect.on, dispatch_quiet, showing, Editor.reduce_eq_next hs,
    Editor.next]
  rw [if_neg (by omega), hturn]
  rfl

theorem suggestions_turn (s : Session) (d : Int) : (s.turn d).suggestions = s.suggestions := rfl

theorem panelOpen_turn (s : Session) (d : Int) : (s.turn d).panelOpen = s.panelOpen := rfl

theorem active_turn (hopen : s.panelOpen = true) (d : Int) :
    (s.turn d).active = (s.editor.suggestion + d) % s.suggestions.length := by
  have hpos := List.length_pos_of_ne_nil (suggestions_ne_nil hopen)
  have hlt := Int.emod_lt_of_pos (s.editor.suggestion + d)
    (b := (s.suggestions.length : Int)) (by omega)
  rw [active_eq (panelOpen_turn s d ▸ hopen), suggestions_turn]
  exact Int.min_eq_left (Int.le_sub_one_of_lt hlt)

/-- The stored highlight is in the list, or comes to the last candidate when it is counted round the
list. -/
def Aligned (s : Session) : Prop :=
  s.editor.suggestion < s.suggestions.length ∨
    (s.suggestions.length : Int) ∣ s.editor.suggestion + 1

instance (s : Session) : Decidable s.Aligned := inferInstanceAs (Decidable (_ ∨ _))

/-- Cutting a number off at the last place of `n` keeps its place round them just if it is not past
the last one, or is there after whole rounds. -/
theorem emod_eq_min_emod_iff {m n : Int} : m % n = min m (n - 1) % n ↔ m < n ∨ n ∣ m + 1 := by
  by_cases hm : m < n
  · rw [Int.min_eq_left (by omega)]
    exact iff_of_true rfl (.inl hm)
  · have hsub : m - (n - 1) = m + 1 - n := by omega
    rw [Int.min_eq_right (by omega), Int.emod_eq_emod_iff_emod_sub_eq_zero, hsub,
      Int.sub_emod_right, ← Int.dvd_iff_emod_eq_zero, or_iff_right hm]

theorem emod_eq_active_emod_iff (hopen : s.panelOpen = true) :
    s.editor.suggestion % s.suggestions.length = s.active % s.suggestions.length ↔ s.Aligned := by
  rw [active_eq hopen]
  exact emod_eq_min_emod_iff

theorem active_emod (hs : s.editor.Sound) (hopen : s.panelOpen = true) :
    s.active % s.suggestions.length = s.active := by
  have hpos := List.length_pos_of_ne_nil (suggestions_ne_nil hopen)
  have h₀ := hs.suggestion_nonneg
  have hactive := active_eq hopen
  exact Int.emod_eq_of_lt (by omega) (by omega)

theorem clampSuggestion_aligned (hs : s.editor.Sound) (hopen : s.panelOpen = true) :
    s.clampSuggestion.Aligned := by
  have hpos := List.length_pos_of_ne_nil (suggestions_ne_nil hopen)
  unfold clampSuggestion
  split
  · refine .inl ?_
    rw [dispatch_quiet, showing, Editor.reduce_eq_next hs]
    exact Int.natCast_pos.2 hpos
  · exact .inl (by omega)

/-- With the panel in sight ArrowDown goes to the next candidate, and ArrowUp and Tab with Shift to
the one before, counted from the stored highlight. That is the one after or before what shows, and
the arrow back leads to what showed, just if the stored highlight is aligned. -/
theorem arrows_step_highlight_iff (query : Text) (catalog : Catalog) (limit entityLimit : Int)
    (echoes : Bool) (cs : List Call) :
    let s := { start query catalog limit entityLimit with echoes := echoes }.calls cs
    let n : Int := s.suggestions.length
    s.panelOpen = true → s.clampSuggestion.Aligned ∧
      ∀ key shift d, arrow? key shift = some d →
        ∃ t, s.handleKey key shift = .ok (t, true) ∧ t.suggestions = s.suggestions ∧
          t.active = (s.editor.suggestion + d) % n ∧
          (t.active = (s.active + d) % n ↔ s.Aligned) ∧
          ∀ back shift', arrow? back shift' = some (-d) →
            ∃ u, t.handleKey back shift' = .ok (u, true) ∧ (u.active = s.active ↔ s.Aligned) := by
  intro s n hopen
  have hs : s.editor.Sound := calls_sound (Editor.ofText_sound query false) cs
  refine ⟨clampSuggestion_aligned hs hopen, fun key shift d harrow => ?_⟩
  have hkey := handleKey_arrow hs hopen harrow
  refine ⟨s.turn d, hkey, rfl, active_turn hopen d, ?_, fun back shift' hback => ?_⟩
  · rw [active_turn hopen, Int.emod_add_cancel_right, emod_eq_active_emod_iff hopen]
  · have ht : (s.turn d).editor.Sound := (handleKey_moves hkey).sound hs
    refine ⟨(s.turn d).turn (-d), handleKey_arrow ht hopen hback, ?_⟩
    have hactive : ((s.turn d).turn (-d)).active = s.editor.suggestion % n := by
      rw [active_turn (s := s.turn d) hopen]
      show ((s.editor.suggestion + d) % n + -d) % n = _
      rw [Int.emod_add_emod, Int.add_neg_cancel_right]
    rw [hactive, ← emod_eq_active_emod_iff hopen, active_emod hs hopen]

/-- A stored highlight that comes to the last of two candidates goes on to the first. -/
theorem arrow_goes_on_from_last :
    let s := (start "" { kinds := [⟨"request", "request"⟩, ⟨"response", "response"⟩] } 12 3).calls
      [.op (.act (.setDraft "-kind:")), .quiet (.setSuggestion 5)]
    s.panelOpen = true ∧ arrow? "ArrowDown" false = some 1 ∧ arrow? "Tab" true = some (-1) ∧
      s.active = 1 ∧ ∃ t, s.handleKey "ArrowDown" false = .ok (t, true) ∧ t.active = 0 ∧
        ∃ u, t.handleKey "Tab" true = .ok (u, true) ∧ u.active = 1 := by
  intro s
  have hopen : s.panelOpen = true := by decide
  have haligned : s.Aligned := by decide
  have hactive : s.active = 1 := by decide
  obtain ⟨-, harrow⟩ := arrows_step_highlight_iff ""
    { kinds := [⟨"request", "request"⟩, ⟨"response", "response"⟩] } 12 3 false
    [.op (.act (.setDraft "-kind:")), .quiet (.setSuggestion 5)] hopen
  obtain ⟨t, hdown, -, -, hnext, hback⟩ := harrow "ArrowDown" false 1 rfl
  obtain ⟨u, hup, hrestored⟩ := hback "Tab" true rfl
  exact ⟨hopen, rfl, rfl, hactive, t, hdown, (hnext.2 haligned).trans (by decide), u, hup,
    (hrestored.2 haligned).trans hactive⟩

/-- Leaving an edit makes the chip under edit a chip that is not offered. Its end was highlighted in
the longer list, and now the arrows leave the highlight where it shows. -/
theorem arrows_stay_on_last :
    let s := (start "+crate:a" { crates := [⟨"a", "a"⟩, ⟨"ab", "ab"⟩, ⟨"ac", "ac"⟩] } 12 3).calls
      [.op (.act (.editChip 0)), .op (.key "ArrowUp" false), .op (.act .blur),
        .op (.key "Tab" false)]
    let n : Int := s.suggestions.length
    let down := s.perform (.key "ArrowDown" false)
    s.panelOpen = true ∧ n = 2 ∧ s.active = 1 ∧
      down.active = 1 ∧ down.active ≠ (s.active + 1) % n ∧
      (s.perform (.key "ArrowUp" false)).active ≠ (s.active - 1) % n ∧
      (s.perform (.key "Tab" true)).active ≠ (s.active - 1) % n ∧
      (down.perform (.key "ArrowUp" false)).active ≠ s.active := by
  decide

end Session

end FilterBar
