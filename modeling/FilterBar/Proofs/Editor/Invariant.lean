import FilterBar.Editor
import FilterBar.Proofs.Query.Tidy

/-!
# The invariant of the editor

`Editor.Sound` is what every state keeps that grew from a text: its indices point into its chips, a
cursor that stands before the chip under edit, and tidy chips. `run_ofText_sound` says so for every
run of actions.

In a sound state the comparison and the clamping of `step` have nothing to do. `next` is the step
without them, and `step_eq_next` and `reduce_eq_next` say that the two agree; other modules reason
about `next`.
-/

namespace FilterBar.Editor

/-- What every state keeps that is built from a text and actions. -/
structure Sound (e : Editor) : Prop extends WellFormed e where
  suggestion_nonneg : 0 ≤ e.suggestion
  /-- The draft stands where the chip under edit stood. -/
  cursor_of_editing : ∀ i, e.editing = some i → e.cursor = i
  tidy : ∀ t ∈ e.chips, Text.Tidy t

variable {e : Editor}

/-- The chip under edit is the one behind the cursor. -/
theorem Sound.hasChip_cursor (h : e.Sound) {i : Int} (hed : e.editing = some i) :
    e.HasChip e.cursor := by
  rw [h.cursor_of_editing i hed]
  exact h.editing i hed

/-! ## Transitions -/

def before (e : Editor) : List Text := e.chips.take e.cursor.toNat

/-- The chips behind the draft, without the one it replaces. -/
def behind (e : Editor) : List Text :=
  e.chips.drop (e.cursor.toNat + if e.editing.isSome then 1 else 0)

def dropChip (e : Editor) (i : Int) : Editor :=
  { e with
    chips := e.chips.eraseIdx i.toNat
    cursor := shiftPast i e.cursor
    editing := forget i e.editing
    selected := forget i e.selected
    draft := if e.editing = some i then [] else e.draft }

/-- The state with a token in place of the draft. -/
def commit (e : Editor) (token : Text) : Editor :=
  { e with
    chips := e.before ++ token :: e.behind
    cursor := e.cursor + 1
    editing := none
    draft := []
    panelOpen := true
    suggestion := 0 }

/-- What an action leads to, with no comparison to the old state and no clamping. -/
def next (e : Editor) : Action → Editor
  | .sync query => ofText query e.focused
  | .focus =>
    { e with
      editing := none, selected := none, cursor := e.chips.length, panelOpen := true,
      suggestion := 0, focused := true }
  | .blur => { e with editing := none, selected := none, panelOpen := false, focused := false }
  | .setDraft draft => { e with draft := draft, panelOpen := true, suggestion := 0 }
  | .clear =>
    { e with
      chips := [], cursor := 0, editing := none, selected := none, draft := [],
      panelOpen := true, suggestion := 0 }
  | .removeChip i => if e.HasChip i then e.dropChip i else e
  | .editChip i =>
    if e.HasChip i then
      { e with
        editing := some i, cursor := i, selected := none, draft := e.chips.getD i.toNat [],
        panelOpen := true, suggestion := 0, focused := true }
    else e
  | .selectChip i => { e with selected := i.filter fun i => decide (e.HasChip i) }
  | .backspace =>
    if e.draft ≠ [] then e
    else match e.editing with
      | some _ =>
        { e with chips := e.chips.eraseIdx e.cursor.toNat, editing := none, selected := none }
      | none =>
        if e.cursor ≤ 0 then e
        else
          { e with
            chips := e.chips.eraseIdx (e.cursor - 1).toNat, cursor := e.cursor - 1,
            selected := none }
  | .apply token => if Text.strip token = [] then e else e.commit (Text.strip token)
  | .moveSuggestion delta total =>
    if total ≤ 0 then e else { e with suggestion := (e.suggestion + delta + total).fmod total }
  | .openPanel => { e with panelOpen := true }
  | .closePanel => { e with panelOpen := false }
  | .setSuggestion i => { e with suggestion := max 0 i }

/-! ## Removed chips -/

theorem length_eraseIdx_of_hasChip {i : Int} (h : e.HasChip i) :
    ((e.chips.eraseIdx i.toNat).length : Int) = e.chips.length - 1 := by
  obtain ⟨h₀, h₁⟩ := h
  rw [List.length_eraseIdx_of_lt (by omega)]
  omega

theorem forget_eq_some_iff {i j : Int} {o : Option Int} :
    forget i o = some j ↔ ∃ k, o = some k ∧ k ≠ i ∧ shiftPast i k = j := by
  cases o with
  | none => simp [forget]
  | some k => by_cases h : k = i <;> simp [forget, h]

theorem hasChip_dropChip {i j : Int} (hi : e.HasChip i) (hj : e.HasChip j) (hne : j ≠ i) :
    (e.dropChip i).HasChip (shiftPast i j) := by
  have hlen : ((e.dropChip i).chips.length : Int) = e.chips.length - 1 :=
    length_eraseIdx_of_hasChip hi
  unfold HasChip at *
  unfold shiftPast
  split <;> omega

theorem without_eq_eraseIdx {i : Int} (h : 0 ≤ i) (chips : List Text) :
    without i chips = chips.eraseIdx i.toNat := by
  obtain ⟨n, rfl⟩ := Int.eq_ofNat_of_zero_le h
  rw [without, ← Int.natCast_succ, Cut.before_ofNat, Cut.since_ofNat,
    List.eraseIdx_eq_take_drop_succ, Int.toNat_natCast]

theorem cut_of_editing (h : e.Sound) {i : Int} (hed : e.editing = some i) :
    Cut.before i e.chips = e.before ∧ Cut.since (i + 1) e.chips = e.behind := by
  have hc := h.cursor_of_editing i hed
  obtain ⟨n, rfl⟩ := Int.eq_ofNat_of_zero_le (h.editing i hed).1
  rw [← Int.natCast_succ, Cut.before_ofNat, Cut.since_ofNat]
  simp [before, behind, hed, hc]

theorem cut_of_inserting (h : e.Sound) (hed : e.editing = none) :
    Cut.before e.cursor e.chips = e.before ∧ Cut.since e.cursor e.chips = e.behind := by
  have h₀ := h.cursor_nonneg
  unfold before behind
  obtain ⟨n, hn⟩ := Int.eq_ofNat_of_zero_le h₀
  rw [hn, Cut.before_ofNat, Cut.since_ofNat]
  simp [hed]

/-! ## Transitions keep the invariant -/

theorem ofText_sound (query : Text) (focused : Bool) : (ofText query focused).Sound where
  cursor_nonneg := Int.natCast_nonneg _
  cursor_le := Int.le_refl _
  editing := nofun
  selected := nofun
  suggestion_nonneg := Int.le_refl _
  cursor_of_editing := nofun
  tidy _ := Query.tidy_of_mem_tokens

theorem Sound.dropChip (h : e.Sound) {i : Int} (hi : e.HasChip i) : (e.dropChip i).Sound := by
  have hlen : ((e.dropChip i).chips.length : Int) = e.chips.length - 1 :=
    length_eraseIdx_of_hasChip hi
  have hcur : (e.dropChip i).cursor = shiftPast i e.cursor := rfl
  have h₀ := h.cursor_nonneg
  have h₁ := h.cursor_le
  have hi' := hi
  unfold HasChip at hi'
  refine ⟨⟨?_, ?_, ?_, ?_⟩, h.suggestion_nonneg, ?_, ?_⟩
  · rw [hcur]; unfold shiftPast; split <;> omega
  · rw [hcur]; unfold shiftPast; split <;> omega
  · intro j hj
    obtain ⟨k, hk, hne, rfl⟩ := forget_eq_some_iff.1 hj
    exact hasChip_dropChip hi (h.editing k hk) hne
  · intro j hj
    obtain ⟨k, hk, hne, rfl⟩ := forget_eq_some_iff.1 hj
    exact hasChip_dropChip hi (h.selected k hk) hne
  · intro j hj
    obtain ⟨k, hk, -, rfl⟩ := forget_eq_some_iff.1 hj
    rw [hcur, h.cursor_of_editing k hk]
  · exact fun t ht => h.tidy t (List.mem_of_mem_eraseIdx ht)

theorem length_commit (h : e.Sound) (token : Text) :
    (e.commit token).chips.length = e.chips.length + if e.editing.isSome then 0 else 1 := by
  have h₀ := h.cursor_nonneg
  have h₁ := h.cursor_le
  cases hed : e.editing with
  | none =>
    simp only [commit, before, behind, hed, List.length_append, List.length_take,
      List.length_cons, List.length_drop, Option.isSome_none, Bool.false_eq_true, if_false]
    omega
  | some i =>
    have hi := h.hasChip_cursor hed
    unfold HasChip at hi
    simp only [commit, before, behind, hed, List.length_append, List.length_take,
      List.length_cons, List.length_drop, Option.isSome_some, if_true]
    omega

theorem Sound.commit (h : e.Sound) {token : Text} (ht : Text.Tidy token) :
    (e.commit token).Sound := by
  have h₀ := h.cursor_nonneg
  have h₁ := h.cursor_le
  have hlen := length_commit h token
  have hcur : (e.commit token).cursor = e.cursor + 1 := rfl
  refine ⟨⟨?_, ?_, nofun, ?_⟩, Int.le_refl _, nofun, ?_⟩
  · rw [hcur]; omega
  · rw [hcur, hlen]
    cases hed : e.editing with
    | none => simp only [Option.isSome_none, Bool.false_eq_true, if_false]; omega
    | some i =>
      have hi := h.hasChip_cursor hed
      unfold HasChip at hi
      simp only [Option.isSome_some, if_true]
      omega
  · intro j hj
    have := h.selected j hj
    unfold HasChip at *
    omega
  · intro t hmem
    rcases List.mem_append.1 hmem with hmem | hmem
    · exact h.tidy t (List.mem_of_mem_take hmem)
    · rcases List.mem_cons.1 hmem with rfl | hmem
      · exact ht
      · exact h.tidy t (List.mem_of_mem_drop hmem)

theorem Sound.eraseEdited (h : e.Sound) {i : Int} (hed : e.editing = some i) :
    Sound { e with
      chips := e.chips.eraseIdx e.cursor.toNat, editing := none, selected := none } := by
  have hchip := h.hasChip_cursor hed
  have hlen := length_eraseIdx_of_hasChip hchip
  unfold HasChip at hchip
  refine ⟨⟨h.cursor_nonneg, ?_, nofun, nofun⟩, h.suggestion_nonneg, nofun, ?_⟩
  · show e.cursor ≤ _
    rw [hlen]; omega
  · exact fun t ht => h.tidy t (List.mem_of_mem_eraseIdx ht)

theorem Sound.eraseBefore (h : e.Sound) (hed : e.editing = none) (hpos : 0 < e.cursor) :
    Sound { e with
      chips := e.chips.eraseIdx (e.cursor - 1).toNat, cursor := e.cursor - 1,
      selected := none } := by
  have h₁ := h.cursor_le
  have hlen := length_eraseIdx_of_hasChip (e := e) (i := e.cursor - 1) ⟨by omega, by omega⟩
  refine ⟨⟨?_, ?_, ?_, nofun⟩, h.suggestion_nonneg, ?_, ?_⟩
  · show 0 ≤ e.cursor - 1
    omega
  · show e.cursor - 1 ≤ _
    rw [hlen]; omega
  · exact fun i hi => by cases hed.symm.trans hi
  · exact fun i hi => by cases hed.symm.trans hi
  · exact fun t ht => h.tidy t (List.mem_of_mem_eraseIdx ht)

theorem Sound.next (h : e.Sound) (a : Action) : (e.next a).Sound := by
  have h₀ := h.cursor_nonneg
  have h₁ := h.cursor_le
  cases a with
  | sync query => exact ofText_sound query e.focused
  | focus =>
    exact ⟨⟨Int.natCast_nonneg _, Int.le_refl _, nofun, nofun⟩, Int.le_refl _, nofun, h.tidy⟩
  | blur => exact ⟨⟨h₀, h₁, nofun, nofun⟩, h.suggestion_nonneg, nofun, h.tidy⟩
  | setDraft draft =>
    exact ⟨⟨h₀, h₁, h.editing, h.selected⟩, Int.le_refl _, h.cursor_of_editing, h.tidy⟩
  | clear =>
    exact ⟨⟨Int.le_refl _, Int.le_refl _, nofun, nofun⟩, Int.le_refl _, nofun, nofun⟩
  | removeChip i =>
    simp only [Editor.next]
    split
    · next hi => exact h.dropChip hi
    · exact h
  | editChip i =>
    simp only [Editor.next]
    split
    · next hi =>
      refine ⟨⟨hi.1, Int.le_of_lt hi.2, ?_, nofun⟩, Int.le_refl _, ?_, h.tidy⟩
      · rintro j ⟨⟩; exact hi
      · rintro j ⟨⟩; rfl
    · exact h
  | selectChip i =>
    refine ⟨⟨h₀, h₁, h.editing, ?_⟩, h.suggestion_nonneg, h.cursor_of_editing, h.tidy⟩
    intro j hj
    exact of_decide_eq_true (Option.filter_eq_some_iff.1 hj).2
  | backspace =>
    simp only [Editor.next]
    split
    · exact h
    · split
      · next hed => exact h.eraseEdited hed
      · next hed =>
        split
        · exact h
        · next hc => exact h.eraseBefore hed (by omega)
  | apply token =>
    simp only [Editor.next]
    split
    · exact h
    · next ht => exact h.commit (Text.tidy_strip ht)
  | moveSuggestion delta total =>
    simp only [Editor.next]
    split
    · exact h
    · next ht =>
      have := Int.fmod_nonneg_of_pos (e.suggestion + delta + total) (b := total) (by omega)
      exact ⟨⟨h₀, h₁, h.editing, h.selected⟩, this, h.cursor_of_editing, h.tidy⟩
  | openPanel | closePanel =>
    exact ⟨⟨h₀, h₁, h.editing, h.selected⟩, h.suggestion_nonneg, h.cursor_of_editing, h.tidy⟩
  | setSuggestion i =>
    exact ⟨⟨h₀, h₁, h.editing, h.selected⟩, Int.le_max_left 0 i, h.cursor_of_editing, h.tidy⟩

/-! ## Steps are transitions -/

theorem filter_hasChip_eq_self {o : Option Int} (h : ∀ i, o = some i → e.HasChip i) :
    (o.filter fun i => decide (e.HasChip i)) = o := by
  cases o with
  | none => rfl
  | some i => simp [h i rfl]

theorem settle_eq_self (h : e.WellFormed) : e.settle = e := by
  rw [settle, filter_hasChip_eq_self h.editing, filter_hasChip_eq_self h.selected,
    clamp_eq_of_mem h.cursor_nonneg h.cursor_le]

/-- The new state, or `none` if it is the old one. -/
def moved (old new : Editor) : Option Editor := if new = old then none else some new

theorem moved_self (e : Editor) : moved e e = none := if_pos rfl

theorem changed_eq_moved {new : Editor} (h : new.Sound) : changed e new = moved e new := by
  rw [changed, moved, settle_eq_self h.toWellFormed]

/-- In a sound state an action leads to `next`, and nothing changes only if that is the old state.
Starting again is never taken for no change. -/
theorem step_eq_next (h : e.Sound) {a : Action} (ha : ∀ query, a ≠ .sync query) :
    e.step a = moved e (e.next a) := by
  have hn := h.next a
  cases a with
  | sync query => exact absurd rfl (ha query)
  | focus | blur | setDraft _ | clear | selectChip _ | openPanel | closePanel | setSuggestion _ =>
    exact changed_eq_moved hn
  | removeChip i =>
    by_cases hi : e.HasChip i
    · rw [step, if_pos hi, Editor.next, if_pos hi, ← changed_eq_moved (h.dropChip hi),
        without_eq_eraseIdx hi.1]
      rfl
    · rw [step, if_neg hi, Editor.next, if_neg hi, moved_self]
  | editChip i =>
    by_cases hi : e.HasChip i
    · simp only [Editor.next, if_pos hi] at hn
      rw [step, if_pos hi, Editor.next, if_pos hi, changed_eq_moved hn]
    · rw [step, if_neg hi, Editor.next, if_neg hi, moved_self]
  | backspace =>
    by_cases hd : e.draft ≠ []
    · rw [step, if_pos hd, Editor.next, if_pos hd, moved_self]
    rw [step, if_neg hd, Editor.next, if_neg hd]
    cases hed : e.editing with
    | none =>
      by_cases hc : e.cursor ≤ 0
      · simp only [if_pos hc, moved_self]
      · have hb := h.eraseBefore hed (by omega)
        rw [hed] at hb
        simp only [if_neg hc]
        rw [← changed_eq_moved hb, without_eq_eraseIdx (by omega)]
    | some i =>
      have hc := h.cursor_of_editing i hed
      have hs : shiftPast i i = i := if_neg (Int.lt_irrefl i)
      simp only
      rw [← changed_eq_moved (h.eraseEdited hed), without_eq_eraseIdx (h.editing i hed).1, hc, hs]
  | apply token =>
    by_cases ht : Text.strip token = []
    · simp only [step, Editor.next, if_pos ht, moved_self]
    simp only [step, Editor.next, if_neg ht]
    rw [← changed_eq_moved (h.commit (Text.tidy_strip ht))]
    cases hed : e.editing with
    | none =>
      obtain ⟨hb, hs⟩ := cut_of_inserting h hed
      simp only [clamp_eq_of_mem h.cursor_nonneg h.cursor_le, hb, hs, commit]
    | some i =>
      obtain ⟨hb, hs⟩ := cut_of_editing h hed
      simp only [hb, hs, commit, h.cursor_of_editing i hed]
  | moveSuggestion delta total =>
    by_cases ht : total ≤ 0
    · rw [step, if_pos ht, Editor.next, if_pos ht, moved_self]
    · simp only [Editor.next, if_neg ht] at hn
      rw [step, if_neg ht, Editor.next, if_neg ht, changed_eq_moved hn]

theorem reduce_eq_next (h : e.Sound) (a : Action) : e.reduce a = e.next a := by
  cases a with
  | sync query => rfl
  | _ =>
    rw [reduce, step_eq_next h (by simp), moved]
    split
    · next hs => exact hs.symm
    · rfl

theorem reduce_apply (h : e.Sound) {token : Text} (ht : Text.strip token ≠ []) :
    e.reduce (.apply token) = e.commit (Text.strip token) := by
  rw [reduce_eq_next h, Editor.next, if_neg ht]

theorem reduce_apply_of_tidy (h : e.Sound) {token : Text} (ht : Text.Tidy token) :
    e.reduce (.apply token) = e.commit token := by
  have hne : Text.strip token ≠ [] := by
    rw [ht.strip_eq]
    exact ht.ne_nil
  rw [reduce_apply h hne, ht.strip_eq]

/-! ## Runs -/

theorem Sound.reduce (h : e.Sound) (a : Action) : (e.reduce a).Sound :=
  reduce_eq_next h a ▸ h.next a

theorem Sound.run (h : e.Sound) (as : List Action) : (e.run as).Sound := by
  induction as generalizing e with
  | nil => exact h
  | cons a as ih => exact ih (h.reduce a)

/-- Whatever the text and the actions, the indices point into the chips, the cursor stands before
the chip under edit, and no chip is empty or has a blank at an end. -/
theorem run_ofText_sound (query : Text) (focused : Bool) (as : List Action) :
    ((ofText query focused).run as).Sound :=
  (ofText_sound query focused).run as

end FilterBar.Editor
