import FilterBar.Query.Token
import FilterBar.Cut

/-!
# The chip editor

The editor keeps the committed tokens of a query as chips, the draft that is being typed, a cursor
among the chips and the state of the suggestion panel. While a chip is edited, the draft stands in
its place.

- `Editor.step`: the state after an action, or `none` if the action changes nothing.
- `Editor.text`: the query that the editor shows.
- `Editor.WellFormed`: the indices of a state point into its chips. Every state that is built from
  a text and actions is well-formed; a state that comes from elsewhere need not be, and its indices
  are then read as signed bounds.
-/

namespace FilterBar

structure Editor where
  chips : List Text := []
  /-- Where the draft goes in, as a number of chips. -/
  cursor : Int := 0
  /-- The chip that the draft replaces while it is edited. -/
  editing : Option Int := none
  draft : Text := []
  /-- The highlighted chip. -/
  selected : Option Int := none
  panelOpen : Bool := false
  /-- The highlighted suggestion. -/
  suggestion : Int := 0
  focused : Bool := false
deriving DecidableEq

namespace Editor

/-! ## Reading and showing a query -/

/-- The state with every token of a query committed and the cursor at the end. -/
def ofText (query : Text) (focused : Bool) : Editor :=
  let chips := Query.tokens query
  { chips := chips, cursor := chips.length, focused := focused }

/-- Whether `i` is the place of a chip. -/
def HasChip (e : Editor) (i : Int) : Prop := 0 ≤ i ∧ i < e.chips.length

instance (e : Editor) (i : Int) : Decidable (e.HasChip i) :=
  inferInstanceAs (Decidable (_ ∧ _))

/-- The index in `0 … size` that is nearest to `i`. -/
def clamp (size : Nat) (i : Int) : Nat := min i.toNat size

/-- The chips with the tokens of the draft in place: instead of the chip that is edited, or at the
cursor. -/
def pieces (e : Editor) : List Text :=
  let draft := Query.tokens e.draft
  let atCursor := let i := clamp e.chips.length e.cursor
    e.chips.take i ++ draft ++ e.chips.drop i
  match e.editing with
  | some i =>
    if e.HasChip i then e.chips.take i.toNat ++ draft ++ e.chips.drop (i.toNat + 1) else atCursor
  | none => atCursor

/-- The query that the editor shows. An empty chip leaves no trace in it. -/
def text (e : Editor) : Text := Query.ofTokens (e.pieces.filter fun t => !t.isEmpty)

/-- Whether the panel is visible, given the number of suggestions. -/
def showsPanel (e : Editor) (count : Nat) : Bool := e.panelOpen && 0 < count

/-- Every index points to a chip, or in the case of the cursor between chips. -/
structure WellFormed (e : Editor) : Prop where
  cursor_nonneg : 0 ≤ e.cursor
  cursor_le : e.cursor ≤ e.chips.length
  editing : ∀ i, e.editing = some i → e.HasChip i
  selected : ∀ i, e.selected = some i → e.HasChip i

/-! ## Actions -/

inductive Action where
  /-- Start again from a query that changed elsewhere. -/
  | sync (query : Text)
  | focus
  | blur
  | setDraft (draft : Text)
  | clear
  | removeChip (index : Int)
  /-- Take a chip back into the draft. -/
  | editChip (index : Int)
  | selectChip (index : Option Int)
  /-- Backspace with the draft empty. -/
  | backspace
  | apply (token : Text)
  | moveSuggestion (delta total : Int)
  | openPanel
  | closePanel
  | setSuggestion (index : Int)
deriving DecidableEq

/-- The state with indices that point nowhere dropped and the cursor moved to the nearer end. -/
def settle (e : Editor) : Editor :=
  { e with
    cursor := clamp e.chips.length e.cursor
    editing := e.editing.filter fun i => decide (e.HasChip i)
    selected := e.selected.filter fun i => decide (e.HasChip i) }

theorem clamp_eq_of_mem {size : Nat} {i : Int} (h₀ : 0 ≤ i) (h : i ≤ size) :
    (clamp size i : Int) = i := by
  unfold clamp
  omega

theorem clamp_le (size : Nat) (i : Int) : clamp size i ≤ size := Nat.min_le_right _ _

theorem settle_wellFormed (e : Editor) : e.settle.WellFormed := by
  refine ⟨by simp [settle], ?_, ?_, ?_⟩
  · have := clamp_le e.chips.length e.cursor
    simp only [settle]
    omega
  · intro i hi
    simp only [settle, Option.filter_eq_some_iff, decide_eq_true_eq] at hi
    exact hi.2
  · intro i hi
    simp only [settle, Option.filter_eq_some_iff, decide_eq_true_eq] at hi
    exact hi.2

/-- The settled new state, or `none` if it is the old one. -/
def changed (old new : Editor) : Option Editor := if new = old then none else some new.settle

/-- An index after the removal of the chip at `index`. -/
def shiftPast (index i : Int) : Int := if index < i then i - 1 else i

/-- The index of a chip after the removal of the one at `index`, which may be that chip. -/
def forget (index : Int) (i : Option Int) : Option Int :=
  if i = some index then none else i.map (shiftPast index)

/-- The chips without the one at a signed place. -/
def without (index : Int) (chips : List Text) : List Text :=
  Cut.before index chips ++ Cut.since (index + 1) chips

/-- The state after an action, or `none` if nothing changes. Starting again always counts as a
change. -/
def step (e : Editor) : Action → Option Editor
  | .sync query => some (ofText query e.focused)
  | .focus =>
    changed e { e with
      editing := none, selected := none, cursor := e.chips.length, panelOpen := true,
      suggestion := 0, focused := true }
  | .blur =>
    changed e { e with editing := none, selected := none, panelOpen := false, focused := false }
  | .setDraft draft => changed e { e with draft := draft, panelOpen := true, suggestion := 0 }
  | .clear =>
    changed e { e with
      chips := [], cursor := 0, editing := none, selected := none, draft := [],
      panelOpen := true, suggestion := 0 }
  | .removeChip index =>
    if e.HasChip index then
      changed e { e with
        chips := without index e.chips
        cursor := shiftPast index e.cursor
        editing := forget index e.editing
        selected := forget index e.selected
        draft := if e.editing = some index then [] else e.draft }
    else none
  | .editChip index =>
    if e.HasChip index then
      changed e { e with
        editing := some index, cursor := index, selected := none,
        draft := e.chips.getD index.toNat [], panelOpen := true, suggestion := 0,
        focused := true }
    else none
  | .selectChip index =>
    changed e { e with selected := index.filter fun i => decide (e.HasChip i) }
  | .backspace =>
    if e.draft ≠ [] then none
    else match e.editing with
      | some index =>
        changed e { e with
          chips := without index e.chips, cursor := shiftPast index e.cursor,
          editing := none, selected := none }
      | none =>
        if e.cursor ≤ 0 then none
        else changed e { e with
          chips := without (e.cursor - 1) e.chips, cursor := e.cursor - 1, selected := none }
  | .apply token =>
    let token := Text.strip token
    if token = [] then none
    else
      let next (index : Int) (after : List Text) : Option Editor :=
        changed e { e with
          chips := Cut.before index e.chips ++ token :: after, cursor := index + 1,
          editing := none, draft := [], panelOpen := true, suggestion := 0 }
      match e.editing with
      | some index => next index (Cut.since (index + 1) e.chips)
      | none =>
        let index : Int := clamp e.chips.length e.cursor
        next index (Cut.since index e.chips)
  | .moveSuggestion delta total =>
    if total ≤ 0 then none
    else changed e { e with suggestion := (e.suggestion + delta + total).fmod total }
  | .openPanel => changed e { e with panelOpen := true }
  | .closePanel => changed e { e with panelOpen := false }
  | .setSuggestion index => changed e { e with suggestion := max 0 index }

def reduce (e : Editor) (a : Action) : Editor := (e.step a).getD e

def run (e : Editor) (as : List Action) : Editor := as.foldl reduce e

end Editor

end FilterBar
