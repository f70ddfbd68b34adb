import FilterBar.Proofs.Editor.View

/-!
# The editor as a gap buffer

A gap buffer holds the chips left of a gap, the draft that is typed into the gap and the chips right
of it. A chip under edit is set aside: it stands in the gap, hidden by the draft.

- `GapBuffer.act`: what each action does to a buffer.
- `Editor.Holds`: a state holds a buffer. `Holds.next` says that a state goes on to hold what its
  buffer becomes, and `buffer_run` that a run from a text does what it does to the buffer.
- `Editor.ActsOnParts`: the effect of the actions on the tokens left of the draft, in it and right of
  it, as it follows from the buffer.
-/

namespace FilterBar

open Query (tokens ofTokens)

structure GapBuffer where
  left : List Text := []
  /-- The chip under edit. -/
  hidden : Option Text := none
  draft : Text := []
  right : List Text := []
deriving DecidableEq

/-- The tokens of a query: left of the draft, in the draft, right of it. -/
structure Parts where
  left : List Text
  draft : List Text
  right : List Text
deriving DecidableEq

namespace GapBuffer

/-- A buffer with all tokens of a query left of the gap. -/
def ofText (query : Text) : GapBuffer := { left := tokens query }

def chips (b : GapBuffer) : List Text := b.left ++ b.hidden.toList ++ b.right

def parts (b : GapBuffer) : Parts := ⟨b.left, tokens b.draft, b.right⟩

/-- The buffer without its chip number `n`. The draft goes with the chip that it hides. -/
def remove (b : GapBuffer) (n : Nat) : GapBuffer :=
  if n < b.left.length then { b with left := b.left.eraseIdx n }
  else if b.hidden.isSome ∧ n = b.left.length then { b with hidden := none, draft := [] }
  else { b with right := b.right.eraseIdx (n - (b.left ++ b.hidden.toList).length) }

/-- The buffer with the gap moved to the chip number `n`, which goes into the draft. -/
def edit (b : GapBuffer) (n : Nat) : GapBuffer :=
  match b.chips[n]? with
  | some chip => ⟨b.chips.take n, some chip, chip, b.chips.drop (n + 1)⟩
  | none => b

def act (b : GapBuffer) : Editor.Action → GapBuffer
  | .sync query => ofText query
  | .focus => { left := b.chips, draft := b.draft }
  | .blur => { b with hidden := none, right := b.hidden.toList ++ b.right }
  | .setDraft draft => { b with draft := draft }
  | .clear => {}
  | .removeChip i => if 0 ≤ i ∧ i < b.chips.length then b.remove i.toNat else b
  | .editChip i => if 0 ≤ i then b.edit i.toNat else b
  | .backspace =>
    if b.draft ≠ [] then b
    else if b.hidden.isSome then { b with hidden := none }
    else { b with left := b.left.dropLast }
  | .apply token =>
    if Text.strip token = [] then b
    else { left := b.left ++ [Text.strip token], right := b.right }
  | .selectChip _ | .moveSuggestion .. | .openPanel | .closePanel | .setSuggestion _ => b

def run (b : GapBuffer) (as : List Editor.Action) : GapBuffer := as.foldl act b

end GapBuffer

namespace Editor

variable {e : Editor} {b : GapBuffer}

def buffer (e : Editor) : GapBuffer :=
  match e.editing with
  | some i => ⟨Cut.before i e.chips, Cut.at? i e.chips, e.draft, Cut.since (i + 1) e.chips⟩
  | none => ⟨Cut.before e.cursor e.chips, none, e.draft, Cut.since e.cursor e.chips⟩

/-- The chips left of the draft, the tokens of the draft and the chips right of it. -/
def parts (e : Editor) : Parts := e.buffer.parts

/-- The chips, the cursor and the chip under edit are those of the buffer. -/
structure Holds (e : Editor) (b : GapBuffer) : Prop where
  chips : e.chips = b.chips
  cursor : e.cursor = b.left.length
  editing : e.editing = b.hidden.map fun _ => (b.left.length : Int)
  draft : e.draft = b.draft

/-! ## The buffer of a state -/

theorem Holds.buffer_eq (h : e.Holds b) : e.buffer = b := by
  obtain ⟨left, hidden, draft, right⟩ := b
  cases hidden with
  | none =>
    have hchips : e.chips = left ++ right := by simpa [GapBuffer.chips] using h.chips
    simp [buffer, h.editing, h.cursor, h.draft, hchips, Cut.before_ofNat, Cut.since_ofNat]
  | some c =>
    have hchips : e.chips = left ++ c :: right := by simpa [GapBuffer.chips] using h.chips
    have hed : e.editing = some (left.length : Int) := h.editing
    have hbefore : Cut.before left.length e.chips = left := by
      rw [Cut.before_ofNat, hchips, List.take_left]
    have hat : Cut.at? left.length e.chips = some c := by
      rw [Cut.at?_ofNat, hchips, List.getElem?_append_right (Nat.le_refl _)]
      simp
    have hsince : Cut.since (left.length + 1) e.chips = right := by
      rw [← Int.natCast_succ, Cut.since_ofNat, hchips]
      simp
    simp only [buffer, hed, hbefore, hat, hsince, h.draft]

theorem holds_buffer (h : e.Sound) : e.Holds e.buffer := by
  obtain ⟨n, hn⟩ := Int.eq_ofNat_of_zero_le h.cursor_nonneg
  have hle := h.cursor_le
  cases hed : e.editing with
  | none =>
    have hb : e.Holds ⟨e.chips.take n, none, e.draft, e.chips.drop n⟩ :=
      ⟨by simp [GapBuffer.chips], by simp; omega, by simp [hed], rfl⟩
    rwa [hb.buffer_eq]
  | some i =>
    have hlt : n < e.chips.length := by
      have := (h.hasChip_cursor hed).2
      omega
    have hi : i = n := by rw [← hn, h.cursor_of_editing i hed]
    have hb : e.Holds ⟨e.chips.take n, some e.chips[n], e.draft, e.chips.drop (n + 1)⟩ :=
      ⟨by simp [GapBuffer.chips], by simp; omega, by simp [hed]; omega, rfl⟩
    rwa [hb.buffer_eq]

theorem Holds.hasChip_iff (h : e.Holds b) (i : Int) : e.HasChip i ↔ 0 ≤ i ∧ i < b.chips.length := by
  rw [HasChip, h.chips]

theorem Holds.editing_isSome (h : e.Holds b) : e.editing.isSome = b.hidden.isSome := by
  rw [h.editing, Option.isSome_map]

theorem Holds.before_eq (h : e.Holds b) : e.before = b.left := by
  simp [before, h.chips, h.cursor, GapBuffer.chips]

theorem Holds.behind_eq (h : e.Holds b) : e.behind = b.right := by
  obtain ⟨left, hidden, draft, right⟩ := b
  have hsome := h.editing_isSome
  cases hidden <;> simp [behind, h.chips, h.cursor, GapBuffer.chips, hsome]

theorem holds_ofText (query : Text) (focused : Bool) :
    (ofText query focused).Holds (.ofText query) :=
  ⟨by simp [ofText, GapBuffer.ofText, GapBuffer.chips], rfl, rfl, rfl⟩

/-! ## Steps -/

theorem Holds.editing_ne (h : e.Holds b) {n : Nat} (hne : b.hidden.isSome → n ≠ b.left.length) :
    e.editing ≠ some (n : Int) := by
  rw [h.editing]
  intro heq
  obtain ⟨c, hc, hn⟩ := Option.map_eq_some_iff.1 heq
  exact hne (by simp [hc]) (by omega)

theorem Holds.forget_editing (h : e.Holds b) {n : Nat} (hne : e.editing ≠ some (n : Int)) :
    forget n e.editing = b.hidden.map fun _ => shiftPast n b.left.length := by
  rw [forget, if_neg hne, h.editing, Option.map_map]
  rfl

theorem Holds.dropChip_left (h : e.Holds b) {n : Nat} (hn : n < b.left.length) :
    (e.dropChip n).Holds (b.remove n) := by
  have hne := h.editing_ne fun _ => Nat.ne_of_lt hn
  have hlen := List.length_eraseIdx_of_lt hn
  have hshift : shiftPast n b.left.length = ((b.left.eraseIdx n).length : Int) := by
    rw [hlen, shiftPast, if_pos (by omega)]
    omega
  rw [GapBuffer.remove, if_pos hn]
  refine ⟨?_, ?_, ?_, ?_⟩
  · simp only [Editor.dropChip, h.chips, GapBuffer.chips, Int.toNat_natCast, List.append_assoc,
      List.eraseIdx_append_of_lt_length hn]
  · simp only [Editor.dropChip, h.cursor, hshift]
  · show forget n e.editing = _
    rw [h.forget_editing hne, hshift]
  · simp only [Editor.dropChip, if_neg hne, h.draft]

/-- The chip under edit goes with the draft. -/
theorem Holds.dropChip_hidden (h : e.Holds b) (hb : b.hidden.isSome) :
    (e.dropChip b.left.length).Holds (b.remove b.left.length) := by
  obtain ⟨c, hc⟩ := Option.isSome_iff_exists.1 hb
  have hed : e.editing = some (b.left.length : Int) := by rw [h.editing, hc]; rfl
  rw [GapBuffer.remove, if_neg (Nat.lt_irrefl _), if_pos ⟨hb, rfl⟩]
  refine ⟨?_, ?_, ?_, ?_⟩
  · simp [Editor.dropChip, h.chips, GapBuffer.chips, hc, List.eraseIdx_append_of_length_le]
  · simp [Editor.dropChip, h.cursor, shiftPast]
  · simp [Editor.dropChip, hed, forget]
  · simp [Editor.dropChip, hed]

theorem Holds.dropChip_right (h : e.Holds b) {n : Nat} (hn : (b.left ++ b.hidden.toList).length ≤ n)
    (hhid : ¬ (b.hidden.isSome ∧ n = b.left.length)) : (e.dropChip n).Holds (b.remove n) := by
  have hne := h.editing_ne fun hb hn => hhid ⟨hb, hn⟩
  have hle : b.left.length ≤ n := by
    rw [List.length_append] at hn
    omega
  have hshift : shiftPast n b.left.length = (b.left.length : Int) := if_neg (by omega)
  rw [GapBuffer.remove, if_neg (by omega), if_neg hhid]
  refine ⟨?_, ?_, ?_, ?_⟩
  · simp only [Editor.dropChip, h.chips, GapBuffer.chips, Int.toNat_natCast,
      List.eraseIdx_append_of_length_le hn]
  · simp only [Editor.dropChip, h.cursor, hshift]
  · show forget n e.editing = _
    rw [h.forget_editing hne, hshift]
  · simp only [Editor.dropChip, if_neg hne, h.draft]

theorem Holds.dropChip (h : e.Holds b) (n : Nat) : (e.dropChip n).Holds (b.remove n) := by
  by_cases hn : n < b.left.length
  · exact h.dropChip_left hn
  · by_cases hb : b.hidden.isSome ∧ n = b.left.length
    · obtain ⟨hb, rfl⟩ := hb
      exact h.dropChip_hidden hb
    · refine h.dropChip_right ?_ hb
      cases hc : b.hidden with
      | none => simp; omega
      | some c =>
        simp only [hc, Option.isSome_some, true_and] at hb
        simp
        omega

theorem Holds.commit (h : e.Holds b) (token : Text) :
    (e.commit token).Holds { left := b.left ++ [token], right := b.right } := by
  exact ⟨by simp [Editor.commit, GapBuffer.chips, h.before_eq, h.behind_eq],
    by simp [Editor.commit, h.cursor], rfl, rfl⟩

theorem Holds.backspace (h : e.Holds b) : (e.next .backspace).Holds (b.act .backspace) := by
  obtain ⟨left, hidden, draft, right⟩ := b
  have hdraft : e.draft = draft := h.draft
  have hcur : e.cursor = left.length := h.cursor
  have hchips : e.chips = left ++ hidden.toList ++ right := h.chips
  simp only [next, GapBuffer.act, hdraft]
  split
  · exact h
  cases hidden with
  | some c =>
    have hed : e.editing = some (left.length : Int) := h.editing
    simp only [hed, Option.isSome_some, if_true]
    refine ⟨?_, hcur, rfl, rfl⟩
    simp [hchips, hcur, GapBuffer.chips, List.eraseIdx_append_of_length_le]
  | none =>
    have hed : e.editing = none := h.editing
    simp only [hed, Option.isSome_none, Bool.false_eq_true, if_false]
    rcases List.eq_nil_or_concat left with rfl | ⟨l, c, rfl⟩
    · rw [if_pos (by simp [hcur])]
      exact h
    · rw [List.concat_eq_append, List.length_append, List.length_singleton] at hcur
      rw [if_neg (by omega)]
      have hpred : e.cursor - 1 = (l.length : Int) := by omega
      refine ⟨?_, ?_, rfl, rfl⟩
      · simp [hchips, hpred, GapBuffer.chips, List.eraseIdx_append_of_length_le]
      · simp [hpred]

/-- The chip goes into the draft, and the gap takes its place. -/
theorem Holds.editChip (h : e.Holds b) (i : Int) :
    (e.next (.editChip i)).Holds (b.act (.editChip i)) := by
  simp only [Editor.next, GapBuffer.act, h.hasChip_iff i]
  by_cases hi : 0 ≤ i ∧ i < b.chips.length
  · obtain ⟨n, rfl⟩ := Int.eq_ofNat_of_zero_le hi.1
    have hn : n < b.chips.length := by omega
    have hedit : b.edit n =
        ⟨b.chips.take n, some b.chips[n], b.chips[n], b.chips.drop (n + 1)⟩ := by
      simp [GapBuffer.edit, List.getElem?_eq_getElem hn]
    have hlen : (n : Int) = (b.chips.take n).length := by
      rw [List.length_take, Nat.min_eq_left (Nat.le_of_lt hn)]
    rw [if_pos hi, if_pos hi.1, Int.toNat_natCast, hedit]
    refine ⟨?_, hlen, congrArg some hlen, ?_⟩
    · show e.chips = b.chips.take n ++ [b.chips[n]] ++ b.chips.drop (n + 1)
      rw [h.chips]
      simp
    · simp [h.chips, List.getElem?_eq_getElem hn]
  · rw [if_neg hi]
    split
    · next h₀ =>
      rw [GapBuffer.edit, List.getElem?_eq_none (by omega)]
      exact h
    · exact h

theorem Holds.next (h : e.Holds b) (a : Action) : (e.next a).Holds (b.act a) := by
  have hlen : e.chips.length = b.chips.length := by rw [h.chips]
  cases a with
  | sync query => exact holds_ofText query e.focused
  | focus =>
    refine ⟨?_, ?_, rfl, h.draft⟩
    · simp [Editor.next, GapBuffer.act, GapBuffer.chips, h.chips]
    · exact congrArg Int.ofNat hlen
  | blur =>
    refine ⟨?_, h.cursor, rfl, h.draft⟩
    simp [Editor.next, GapBuffer.act, GapBuffer.chips, h.chips]
  | setDraft draft => exact ⟨h.chips, h.cursor, h.editing, rfl⟩
  | clear => exact ⟨rfl, rfl, rfl, rfl⟩
  | removeChip i =>
    simp only [Editor.next, GapBuffer.act, h.hasChip_iff i]
    split
    · next hi =>
      obtain ⟨n, rfl⟩ := Int.eq_ofNat_of_zero_le hi.1
      exact h.dropChip n
    · exact h
  | editChip i => exact h.editChip i
  | selectChip i => exact ⟨h.chips, h.cursor, h.editing, h.draft⟩
  | backspace => exact h.backspace
  | apply token =>
    simp only [Editor.next, GapBuffer.act]
    split
    · exact h
    · exact h.commit _
  | moveSuggestion delta total =>
    simp only [Editor.next, GapBuffer.act]
    split
    · exact h
    · exact ⟨h.chips, h.cursor, h.editing, h.draft⟩
  | openPanel | closePanel | setSuggestion _ => exact ⟨h.chips, h.cursor, h.editing, h.draft⟩

theorem buffer_reduce (h : e.Sound) (a : Action) : (e.reduce a).buffer = e.buffer.act a := by
  rw [reduce_eq_next h]
  exact ((holds_buffer h).next a).buffer_eq

/-! ## Runs -/

theorem buffer_run (h : e.Sound) (as : List Action) : (e.run as).buffer = e.buffer.run as := by
  induction as generalizing e with
  | nil => rfl
  | cons a as ih =>
    have hrun := ih (h.reduce a)
    rw [buffer_reduce h] at hrun
    exact hrun

/-! ## Parts -/

/-- What the actions do to the tokens left of the draft, in it and right of it. -/
structure ActsOnParts (e : Editor) : Prop where
  text : e.text = ofTokens (e.parts.left ++ e.parts.draft ++ e.parts.right)
  setDraft : ∀ draft, (e.reduce (.setDraft draft)).parts = { e.parts with draft := tokens draft }
  apply : ∀ token, Text.strip token ≠ [] →
    (e.reduce (.apply token)).parts = ⟨e.parts.left ++ [Text.strip token], [], e.parts.right⟩
  /-- Chips are counted from the left, with the one under edit. -/
  removeChip : ∀ i, e.HasChip i → (e.reduce (.removeChip i)).parts =
    if e.editing = some i then { e.parts with draft := [] }
    else if i < e.parts.left.length then { e.parts with left := e.parts.left.eraseIdx i.toNat }
    else { e.parts with
      right := e.parts.right.eraseIdx (i.toNat - (e.chips.length - e.parts.right.length)) }
  backspace : e.draft = [] → (e.reduce .backspace).parts =
    if e.editing.isSome then e.parts else { e.parts with left := e.parts.left.dropLast }
  editChip : ∀ i, e.HasChip i → (e.reduce (.editChip i)).parts =
    ⟨e.chips.take i.toNat, tokens (e.chips.getD i.toNat []), e.chips.drop (i.toNat + 1)⟩
  clear : (e.reduce .clear).parts = ⟨[], [], []⟩
  selectChip : ∀ i, (e.reduce (.selectChip i)).parts = e.parts
  panel : ∀ a : Action, a.IsPanel → (e.reduce a).parts = e.parts

theorem parts_removeChip (h : e.Sound) {i : Int} (hi : e.HasChip i) :
    (e.reduce (.removeChip i)).parts =
      if e.editing = some i then { e.parts with draft := [] }
      else if i < e.parts.left.length then { e.parts with left := e.parts.left.eraseIdx i.toNat }
      else { e.parts with
        right := e.parts.right.eraseIdx (i.toNat - (e.chips.length - e.parts.right.length)) } := by
  have hb := holds_buffer h
  obtain ⟨n, rfl⟩ := Int.eq_ofNat_of_zero_le hi.1
  have hreduce : (e.reduce (.removeChip n)).parts = (e.buffer.remove n).parts := by
    rw [parts, buffer_reduce h, GapBuffer.act, if_pos ((hb.hasChip_iff n).1 hi), Int.toNat_natCast]
  rw [hreduce, GapBuffer.remove]
  by_cases hleft : n < e.buffer.left.length
  · have hne := hb.editing_ne fun _ => Nat.ne_of_lt hleft
    have hleft' : (n : Int) < e.parts.left.length := Int.ofNat_lt.2 hleft
    rw [if_pos hleft, if_neg hne, if_pos hleft']
    rfl
  · have hleft' : ¬ (n : Int) < e.parts.left.length := fun h => hleft (Int.ofNat_lt.1 h)
    rw [if_neg hleft]
    by_cases hhid : e.buffer.hidden.isSome ∧ n = e.buffer.left.length
    · have hed : e.editing = some (n : Int) := by
        obtain ⟨c, hc⟩ := Option.isSome_iff_exists.1 hhid.1
        rw [hb.editing, hc, hhid.2]
        rfl
      rw [if_pos hhid, if_pos hed]
      rfl
    · have hne := hb.editing_ne fun h₁ h₂ => hhid ⟨h₁, h₂⟩
      have hlen : e.chips.length - e.parts.right.length =
          (e.buffer.left ++ e.buffer.hidden.toList).length := by
        rw [hb.chips, GapBuffer.chips, List.length_append]
        exact Nat.add_sub_cancel ..
      rw [if_neg hhid, if_neg hne, if_neg hleft', hlen]
      rfl

theorem parts_editChip (h : e.Sound) {i : Int} (hi : e.HasChip i) :
    (e.reduce (.editChip i)).parts =
      ⟨e.chips.take i.toNat, tokens (e.chips.getD i.toNat []), e.chips.drop (i.toNat + 1)⟩ := by
  have hb := holds_buffer h
  have hlt : i.toNat < e.chips.length := by
    unfold HasChip at hi
    omega
  have hchip : e.chips.getD i.toNat [] = e.chips[i.toNat] := by
    rw [List.getD_eq_getElem?_getD, List.getElem?_eq_getElem hlt, Option.getD_some]
  rw [parts, buffer_reduce h, GapBuffer.act, if_pos hi.1, GapBuffer.edit, ← hb.chips,
    List.getElem?_eq_getElem hlt, hchip]
  rfl

theorem actsOnParts (h : e.Sound) : e.ActsOnParts := by
  have hb := holds_buffer h
  have hreduce : ∀ a, (e.reduce a).parts = (e.buffer.act a).parts :=
    fun a => congrArg GapBuffer.parts (buffer_reduce h a)
  refine ⟨?_, ?_, ?_, ?_, ?_, ?_, ?_, ?_, ?_⟩
  · rw [text_eq h, hb.before_eq, hb.behind_eq, hb.draft]
    rfl
  · intro draft
    exact hreduce _
  · intro token ht
    rw [hreduce, GapBuffer.act, if_neg ht]
    rfl
  · exact fun i hi => parts_removeChip h hi
  · intro hd
    have hdraft : e.buffer.draft = [] := hb.draft.symm.trans hd
    rw [hreduce, GapBuffer.act, if_neg (by simp [hdraft]), hb.editing_isSome]
    split <;> rfl
  · exact fun i hi => parts_editChip h hi
  · exact hreduce _
  · intro i
    exact hreduce _
  · intro a ha
    rw [hreduce]
    cases a with
    | moveSuggestion _ _ | openPanel | closePanel | setSuggestion _ => rfl
    | _ => exact ha.elim

/-- Whatever the text and the actions, the state holds what the same actions make of a buffer that
starts with all tokens left of its gap. Its query is made of the three parts, and each action on
chips works on them as its name says. -/
theorem run_refines_gapBuffer (query : Text) (focused : Bool) (as : List Action) :
    let e := (ofText query focused).run as
    e.buffer = (GapBuffer.ofText query).run as ∧ e.ActsOnParts := by
  intro e
  have hs := ofText_sound query focused
  refine ⟨?_, actsOnParts (hs.run as)⟩
  rw [buffer_run hs, (holds_ofText query focused).buffer_eq]

end Editor

end FilterBar
