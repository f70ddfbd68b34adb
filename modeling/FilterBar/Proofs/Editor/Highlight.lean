import FilterBar.Proofs.Editor.Invariant

/-!
# Where the highlighted chip goes

A `ChipEdit` keeps the row of chips, puts a chip in, replaces one, takes one out or starts a new
row. `Editor.edit` names the edit that an action makes (`chips_reduce`), and `ChipEdit.follow` gives
the place of a chip after it. A chip that is replaced counts as the same chip with another text.

The highlight is the index of a chip. It follows its chip through every edit but one: when a chip is
put in at or before the highlighted one, the index stays as it is (`selected_reduce`). From then on it
stands before the chip that was chosen, for good (`lt_of_followRun`).
-/

namespace FilterBar

/-! ## Edits of the row of chips -/

inductive ChipEdit where
  | keep
  | insert (n : Nat) (chip : Text)
  | replace (n : Nat) (chip : Text)
  | remove (n : Nat)
  | renew (chips : List Text)
deriving DecidableEq

namespace ChipEdit

def apply : ChipEdit → List Text → List Text
  | keep, chips => chips
  | insert n chip, chips => chips.take n ++ chip :: chips.drop n
  | replace n chip, chips => chips.set n chip
  | remove n, chips => chips.eraseIdx n
  | renew new, _ => new

/-- Where the chip at `i` is after the edit, if it is still there. -/
def follow : ChipEdit → Int → Option Int
  | keep, i => some i
  | insert n _, i => some (if i < n then i else i + 1)
  | replace _ _, i => some i
  | remove n, i => if i = n then none else some (if i < n then i else i - 1)
  | renew _, _ => none

theorem getElem?_follow {ed : ChipEdit} {chips : List Text} {n : Nat} {j : Int}
    (hn : n < chips.length) (h : ed.follow n = some j) (hne : ∀ chip, ed ≠ .replace n chip) :
    (ed.apply chips)[j.toNat]? = chips[n]? := by
  cases ed with
  | keep =>
    cases h
    rfl
  | insert m chip =>
    simp only [follow, Option.some.injEq] at h
    by_cases hm : n < m
    · have hj : j.toNat = n := by omega
      rw [apply, hj, List.getElem?_append_left (by simp; omega), List.getElem?_take_of_lt hm]
    · have hlen : (chips.take m).length = m := by simp; omega
      have hj : j.toNat = (chips.take m).length + (n - m + 1) := by omega
      rw [apply, hj, List.getElem?_append_right (Nat.le_add_right ..), Nat.add_sub_cancel_left,
        List.getElem?_cons_succ, List.getElem?_drop]
      congr 1
      omega
  | replace m chip =>
    cases h
    have : m ≠ n := fun h => hne chip (by rw [h])
    simp [apply, List.getElem?_set_ne this]
  | remove m =>
    simp only [follow] at h
    split at h
    · cases h
    · simp only [Option.some.injEq] at h
      by_cases hm : n < m
      · have hj : j.toNat = n := by omega
        rw [apply, hj, List.getElem?_eraseIdx_of_lt hm]
      · have hj : j.toNat + 1 = n := by omega
        rw [apply, List.getElem?_eraseIdx_of_ge (by omega), hj]
  | renew new => cases h

theorem follow_lt_follow {ed : ChipEdit} {i k i' k' : Int} (h : i < k) (hi : ed.follow i = some i')
    (hk : ed.follow k = some k') : i' < k' := by
  cases ed with
  | keep | replace _ _ =>
    cases hi
    cases hk
    exact h
  | insert n chip =>
    simp only [follow, Option.some.injEq] at hi hk
    split at hi <;> split at hk <;> omega
  | remove n =>
    simp only [follow] at hi hk
    split at hi
    · cases hi
    · split at hk
      · cases hk
      · simp only [Option.some.injEq] at hi hk
        split at hi <;> split at hk <;> omega
  | renew new => cases hi

end ChipEdit

namespace Editor

variable {e : Editor}

/-! ## The edit of an action -/

def edit (e : Editor) : Action → ChipEdit
  | .sync query => .renew (Query.tokens query)
  | .clear => .renew []
  | .removeChip i => if e.HasChip i then .remove i.toNat else .keep
  | .backspace =>
    if e.draft ≠ [] then .keep
    else match e.editing with
      | some i => .remove i.toNat
      | none => if e.cursor ≤ 0 then .keep else .remove (e.cursor - 1).toNat
  | .apply token =>
    if Text.strip token = [] then .keep
    else match e.editing with
      | some i => .replace i.toNat (Text.strip token)
      | none => .insert e.cursor.toNat (Text.strip token)
  | _ => .keep

theorem chips_reduce (h : e.Sound) (a : Action) :
    (e.reduce a).chips = (e.edit a).apply e.chips := by
  rw [reduce_eq_next h]
  cases a with
  | removeChip i =>
    simp only [next, edit]
    split <;> rfl
  | editChip i =>
    simp only [next, edit]
    split <;> rfl
  | backspace =>
    simp only [next, edit]
    split
    · rfl
    · cases hed : e.editing with
      | some i =>
        simp only [h.cursor_of_editing i hed]
        rfl
      | none =>
        simp only
        split <;> rfl
  | apply token =>
    simp only [next, edit]
    split
    · rfl
    · cases hed : e.editing with
      | some i =>
        have hi := (h.editing i hed)
        unfold HasChip at hi
        simp [commit, before, behind, hed, ChipEdit.apply, h.cursor_of_editing i hed,
          List.set_eq_take_append_cons_drop]
        omega
      | none => simp [commit, before, behind, hed, ChipEdit.apply]
  | moveSuggestion delta total =>
    simp only [next, edit]
    split <;> rfl
  | _ => rfl

/-! ## The highlight after an action -/

/-- Actions that choose a highlight or start again without one. -/
def Action.IsChoice : Action → Prop
  | .sync _ | .selectChip _ => True
  | _ => False

/-- The action puts a chip in at or before the highlighted one. -/
def Displaces (e : Editor) (a : Action) : Prop :=
  ∃ n chip i, e.edit a = .insert n chip ∧ e.selected = some i ∧ (n : Int) ≤ i

theorem not_displaces {a : Action} (h : ∀ n chip, e.edit a ≠ .insert n chip) : ¬ e.Displaces a := by
  rintro ⟨n, chip, -, hed, -⟩
  exact h n chip hed

/-- The highlight follows its chip, or stays in place while the chip is pushed on. -/
def Keeps (e : Editor) (a : Action) (i j : Int) : Prop :=
  ¬ e.Displaces a ∧ (e.edit a).follow i = some j ∨
    e.Displaces a ∧ (e.edit a).follow i = some (i + 1) ∧ j = i

theorem keeps_of_edit_keep {a : Action} (h : e.edit a = .keep) (i : Int) : e.Keeps a i i :=
  .inl ⟨not_displaces (by simp [h]), by rw [h]; rfl⟩

theorem keeps_removeChip {i k : Int} (hi : e.HasChip i) (hne : k ≠ i) :
    e.Keeps (.removeChip i) k (shiftPast i k) := by
  have hed : e.edit (.removeChip i) = .remove i.toNat := by simp [edit, hi]
  have h₀ := hi.1
  refine .inl ⟨not_displaces (by simp [hed]), ?_⟩
  rw [hed, ChipEdit.follow, if_neg (by omega), shiftPast]
  split <;> split <;> congr 1 <;> omega

theorem keeps_apply {token : Text} (ht : Text.strip token ≠ []) {j : Int}
    (hsel : e.selected = some j) : e.Keeps (.apply token) j j := by
  cases hed : e.editing with
  | some i =>
    have hedit : e.edit (.apply token) = .replace i.toNat (Text.strip token) := by
      simp [edit, ht, hed]
    exact .inl ⟨not_displaces (by simp [hedit]), by rw [hedit]; rfl⟩
  | none =>
    have hedit : e.edit (.apply token) = .insert e.cursor.toNat (Text.strip token) := by
      simp [edit, ht, hed]
    by_cases hle : (e.cursor.toNat : Int) ≤ j
    · refine .inr ⟨⟨_, _, j, hedit, hsel, hle⟩, ?_, rfl⟩
      rw [hedit, ChipEdit.follow, if_neg (by omega)]
    · refine .inl ⟨?_, ?_⟩
      · rintro ⟨n, chip, i, hn, hi, hni⟩
        rw [hedit] at hn
        cases hn
        cases hsel.symm.trans hi
        exact hle hni
      · rw [hedit, ChipEdit.follow, if_pos (by omega)]

/-- What the highlight does in an action that does not choose it. -/
theorem selected_reduce (h : e.Sound) {a : Action} (ha : ¬ a.IsChoice) {j : Int}
    (hj : (e.reduce a).selected = some j) : ∃ i, e.selected = some i ∧ e.Keeps a i j := by
  rw [reduce_eq_next h] at hj
  cases a with
  | sync _ | selectChip _ => exact absurd trivial ha
  | focus | blur | clear => cases hj
  | setDraft _ | openPanel | closePanel | setSuggestion _ =>
    exact ⟨j, hj, keeps_of_edit_keep rfl j⟩
  | removeChip i =>
    simp only [next] at hj
    split at hj
    · next hi =>
      obtain ⟨k, hk, hne, rfl⟩ := forget_eq_some_iff.1 hj
      exact ⟨k, hk, keeps_removeChip hi hne⟩
    · next hi => exact ⟨j, hj, keeps_of_edit_keep (by simp [edit, hi]) j⟩
  | editChip i =>
    simp only [next] at hj
    split at hj
    · cases hj
    · exact ⟨j, hj, keeps_of_edit_keep rfl j⟩
  | backspace =>
    -- The highlight goes whenever a chip does.
    simp only [next] at hj
    split at hj
    · next hd => exact ⟨j, hj, keeps_of_edit_keep (by simp [edit, hd]) j⟩
    · next hd =>
      split at hj
      · cases hj
      · next hed =>
        split at hj
        · next hc => exact ⟨j, hj, keeps_of_edit_keep (by simp [edit, hed, hc]) j⟩
        · cases hj
  | apply token =>
    simp only [next] at hj
    split at hj
    · next ht => exact ⟨j, hj, keeps_of_edit_keep (by simp [edit, ht]) j⟩
    · next ht =>
      have hsel : e.selected = some j := hj
      exact ⟨j, hsel, keeps_apply ht hsel⟩
  | moveSuggestion delta total =>
    simp only [next] at hj
    split at hj <;> exact ⟨j, hj, keeps_of_edit_keep rfl j⟩

/-! ## The highlight after a run -/

def followRun (e : Editor) : List Action → Int → Option Int
  | [], i => some i
  | a :: as, i => ((e.edit a).follow i).bind ((e.reduce a).followRun as)

theorem exists_selected_of_run (h : e.Sound) {as : List Action} (has : ∀ a ∈ as, ¬ a.IsChoice)
    {j : Int} (hj : (e.run as).selected = some j) : ∃ i, e.selected = some i := by
  induction as generalizing e with
  | nil => exact ⟨j, hj⟩
  | cons a as ih =>
    obtain ⟨m, hm⟩ := ih (h.reduce a) (fun b hb => has b (by simp [hb])) hj
    obtain ⟨i, hi, -⟩ := selected_reduce h (has a (by simp)) hm
    exact ⟨i, hi⟩

/-- A highlight before a chip never catches up with it. -/
theorem lt_of_followRun (h : e.Sound) {as : List Action} (has : ∀ a ∈ as, ¬ a.IsChoice)
    {i j k k' : Int} (hi : e.selected = some i) (hj : (e.run as).selected = some j)
    (hk : e.followRun as k = some k') (hik : i < k) : j < k' := by
  induction as generalizing e i k with
  | nil =>
    cases hi.symm.trans hj
    cases hk
    exact hik
  | cons a as ih =>
    have has' : ∀ b ∈ as, ¬ b.IsChoice := fun b hb => has b (by simp [hb])
    obtain ⟨l, hl, hk⟩ := Option.bind_eq_some_iff.1 hk
    obtain ⟨m, hm⟩ := exists_selected_of_run (h.reduce a) has' hj
    refine ih (h.reduce a) has' hm hj hk ?_
    obtain ⟨i', hi', hkeeps⟩ := selected_reduce h (has a (by simp)) hm
    cases hi.symm.trans hi'
    rcases hkeeps with ⟨-, hfollow⟩ | ⟨-, hfollow, rfl⟩
    · exact ChipEdit.follow_lt_follow hik hfollow hl
    · have := ChipEdit.follow_lt_follow hik hfollow hl
      omega

end Editor

end FilterBar
