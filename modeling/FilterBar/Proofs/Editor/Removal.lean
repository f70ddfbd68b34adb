import FilterBar.Proofs.Editor.Invariant

/-!
# Removing two chips

A removal shifts what stands behind the chip: the cursor, the chip under edit and the highlighted
one. Two removals shift and drop the same in either order, if the later chip is counted without the
earlier one once that is gone: `removals_commute`.
-/

namespace FilterBar.Editor

variable {e : Editor} {i j : Int}

/-! ## Two shifts -/

theorem eraseIdx_eraseIdx_of_lt {α : Type} (l : List α) {m n : Nat} (h : m < n) :
    (l.eraseIdx n).eraseIdx m = (l.eraseIdx m).eraseIdx (n - 1) := by
  obtain ⟨n, rfl⟩ := Nat.exists_eq_add_one_of_ne_zero (Nat.ne_zero_of_lt h)
  induction l generalizing m n with
  | nil => rfl
  | cons a l ih =>
    cases m with
    | zero => rfl
    | succ m =>
      obtain ⟨n, rfl⟩ := Nat.exists_eq_add_one_of_ne_zero (n := n) (by omega)
      simp only [List.eraseIdx_cons_succ, Nat.add_sub_cancel, List.cons.injEq, true_and]
      exact ih n (by omega)

theorem shiftPast_shiftPast (h : i < j) (k : Int) :
    shiftPast i (shiftPast j k) = shiftPast (j - 1) (shiftPast i k) := by
  unfold shiftPast
  split <;> split <;> split <;> omega

theorem shiftPast_eq_earlier_iff (h : i < j) {k : Int} : shiftPast j k = i ↔ k = i := by
  unfold shiftPast
  split <;> omega

theorem shiftPast_eq_later_iff (h : i < j) {k : Int} (hk : k ≠ i) :
    shiftPast i k = j - 1 ↔ k = j := by
  unfold shiftPast
  split <;> omega

theorem forget_eq_some_earlier_iff (h : i < j) {o : Option Int} :
    forget j o = some i ↔ o = some i := by
  rw [forget_eq_some_iff]
  constructor
  · rintro ⟨k, rfl, -, hk⟩
    rw [(shiftPast_eq_earlier_iff h).1 hk]
  · rintro rfl
    exact ⟨i, rfl, Int.ne_of_lt h, (shiftPast_eq_earlier_iff h).2 rfl⟩

theorem forget_eq_some_later_iff (h : i < j) {o : Option Int} :
    forget i o = some (j - 1) ↔ o = some j := by
  rw [forget_eq_some_iff]
  constructor
  · rintro ⟨k, rfl, hne, hk⟩
    rw [(shiftPast_eq_later_iff h hne).1 hk]
  · rintro rfl
    have hne : j ≠ i := Int.ne_of_gt h
    exact ⟨j, rfl, hne, (shiftPast_eq_later_iff h hne).2 rfl⟩

theorem forget_forget (h : i < j) (o : Option Int) :
    forget i (forget j o) = forget (j - 1) (forget i o) := by
  ext k
  simp only [forget_eq_some_iff]
  constructor
  · rintro ⟨-, ⟨m, rfl, hmj, rfl⟩, hne, rfl⟩
    have hmi : m ≠ i := mt (shiftPast_eq_earlier_iff h).2 hne
    exact ⟨_, ⟨m, rfl, hmi, rfl⟩, mt (shiftPast_eq_later_iff h hmi).1 hmj,
      (shiftPast_shiftPast h m).symm⟩
  · rintro ⟨-, ⟨m, rfl, hmi, rfl⟩, hne, rfl⟩
    have hmj : m ≠ j := mt (shiftPast_eq_later_iff h hmi).2 hne
    exact ⟨_, ⟨m, rfl, hmj, rfl⟩, mt (shiftPast_eq_earlier_iff h).1 hmi,
      shiftPast_shiftPast h m⟩

/-! ## Two removals -/

theorem dropChip_dropChip (e : Editor) (h₀ : 0 ≤ i) (h : i < j) :
    (e.dropChip j).dropChip i = (e.dropChip i).dropChip (j - 1) := by
  have hchips : (e.chips.eraseIdx j.toNat).eraseIdx i.toNat =
      (e.chips.eraseIdx i.toNat).eraseIdx (j - 1).toNat := by
    rw [eraseIdx_eraseIdx_of_lt _ (by omega), ← Int.pred_toNat]
  have hdraft : ((e.dropChip j).dropChip i).draft = ((e.dropChip i).dropChip (j - 1)).draft := by
    simp only [dropChip, forget_eq_some_earlier_iff h, forget_eq_some_later_iff h]
    split <;> split <;> rfl
  simp only [dropChip] at hdraft ⊢
  rw [hchips, shiftPast_shiftPast h, forget_forget h, forget_forget h, hdraft]

theorem reduce_removeChip (h : e.Sound) (hi : e.HasChip i) :
    e.reduce (.removeChip i) = e.dropChip i := by
  rw [reduce_eq_next h, next, if_pos hi]

theorem reduce_removeChip_of_not (hi : ¬ e.HasChip i) : e.reduce (.removeChip i) = e := by
  rw [reduce, step, if_neg hi]
  rfl

theorem hasChip_dropChip_later_iff (hi : e.HasChip i) (h : i < j) :
    (e.dropChip i).HasChip (j - 1) ↔ e.HasChip j := by
  have hlen : ((e.dropChip i).chips.length : Int) = e.chips.length - 1 :=
    length_eraseIdx_of_hasChip hi
  unfold HasChip at *
  omega

/-- Two chips may be removed in either order. If the earlier one goes first, the later one is a
place further forward. -/
theorem removals_commute (query : Text) (focused : Bool) (as : List Action) {i j : Int}
    (h₀ : 0 ≤ i) (hij : i < j) :
    let e := (ofText query focused).run as
    (e.reduce (.removeChip j)).reduce (.removeChip i) =
      (e.reduce (.removeChip i)).reduce (.removeChip (j - 1)) := by
  intro e
  have h : e.Sound := run_ofText_sound query focused as
  by_cases hi : e.HasChip i
  · by_cases hj : e.HasChip j
    · have hi' : (e.dropChip j).HasChip i := by
        have := hasChip_dropChip hj hi (Int.ne_of_lt hij)
        rwa [shiftPast, if_neg (by omega)] at this
      have hj' := (hasChip_dropChip_later_iff hi hij).2 hj
      rw [reduce_removeChip h hj, reduce_removeChip (h.dropChip hj) hi', reduce_removeChip h hi,
        reduce_removeChip (h.dropChip hi) hj', dropChip_dropChip e h₀ hij]
    · have hj' := mt (hasChip_dropChip_later_iff hi hij).1 hj
      rw [reduce_removeChip_of_not hj, reduce_removeChip h hi, reduce_removeChip_of_not hj']
  · -- With no chip at `i` there is none behind it either.
    have hj : ∀ k, i ≤ k → ¬ e.HasChip k := fun k hk hchip => hi ⟨h₀, by
      have := hchip.2
      omega⟩
    rw [reduce_removeChip_of_not (hj j (Int.le_of_lt hij)), reduce_removeChip_of_not hi,
      reduce_removeChip_of_not (hj (j - 1) (by omega))]

/-- The last chip is under edit and the one before it highlighted. -/
theorem removals_commute_under_edit :
    let e := (ofText "a b c d" true).run [.editChip 3, .selectChip (some 2)]
    (0 : Int) ≤ 1 ∧ (1 : Int) < 3 ∧
      (e.reduce (.removeChip 3)).reduce (.removeChip 1) =
        (e.reduce (.removeChip 1)).reduce (.removeChip 2) ∧
      (e.reduce (.removeChip 1)).editing = some 2 ∧
      (e.reduce (.removeChip 1)).reduce (.removeChip 2) =
        { chips := ["a", "c"], cursor := 2, selected := some 1, panelOpen := true,
          focused := true } :=
  ⟨by decide, by decide, removals_commute "a b c d" true [.editChip 3, .selectChip (some 2)]
    (i := 1) (j := 3) (by decide) (by decide), by decide, by decide⟩

end FilterBar.Editor
