import Mathlib.Data.List.Basic
import Mathlib.Data.List.Count
import FilterBar.Text.Case

/-!
# What lower case leaves alone

Lower case looks at the letters of a word only. Colons, signs, quotes and backslashes stay where
they are, and no letter turns into one: `count_lower` says so for all marks at once. A blank ends
a word, so what stands in front of one is lowered as if nothing came after it
(`lower_prefix_lower`).
-/

namespace FilterBar.Text

variable {c : Char}

/-! ## Marks -/

/-- An ASCII character in front of the lower-case letters that is no letter itself. -/
def IsMark (c : Char) : Prop :=
  (0 < c.toNat ∧ c.toNat < 0x41) ∨ (0x5A < c.toNat ∧ c.toNat < 0x61)

instance (c : Char) : Decidable (IsMark c) := inferInstanceAs (Decidable (_ ∨ _))

theorem le_of_mem_caseRuns : ∀ r ∈ caseRuns, (0x61 : Int) ≤ r.first + r.distance := by
  decide +kernel

theorem IsMark.ne_of_le (hc : IsMark c) {d : Char} (hd : 0x61 ≤ d.toNat) : d ≠ c := by
  rintro rfl
  unfold IsMark at hc
  omega

theorem IsMark.ofNat_ne (hc : IsMark c) {n : Nat} (hn : 0x61 ≤ n) : Char.ofNat n ≠ c := by
  intro heq
  by_cases hvalid : n.isValidChar
  · have hn' : (Char.ofNat n).toNat = n := by
      rw [Char.ofNat, dif_pos hvalid]
      rfl
    exact hc.ne_of_le (hn'.symm ▸ hn) heq
  · -- A number that is no character stands for the zero character, which is no mark.
    rw [Char.ofNat, dif_neg hvalid] at heq
    subst heq
    exact absurd hc (by decide)

theorem lowerLetter_eq_iff (hc : IsMark c) (d : Char) : lowerLetter d = c ↔ d = c := by
  unfold lowerLetter
  split
  · split
    · next hupper =>
      simp only [Bool.and_eq_true, decide_eq_true_eq] at hupper
      have hlo : 0x41 ≤ d.toNat := hupper.1
      have hhi : d.toNat ≤ 0x5A := hupper.2
      refine iff_of_false (hc.ofNat_ne (by omega)) ?_
      rintro rfl
      unfold IsMark at hc
      omega
    · rfl
  · next hascii =>
    have hd : d ≠ c := hc.ne_of_le (by omega)
    split
    · next r hfind =>
      have hfirst := le_of_mem_caseRuns r (List.mem_of_find?_eq_some hfind)
      have hcovers := List.find?_some hfind
      simp only [CaseRun.covers, Bool.and_eq_true, decide_eq_true_eq] at hcovers
      exact iff_of_false (hc.ofNat_ne (by omega)) hd
    · rfl

theorem mem_lowerAt_iff (hc : IsMark c) (before : Text) (d : Char) (after : Text) :
    c ∈ lowerAt before d after ↔ d = c := by
  unfold lowerAt
  split
  · next hd =>
    rw [beq_iff_eq] at hd
    subst hd
    refine iff_of_false ?_ (hc.ne_of_le (by decide))
    rw [List.mem_singleton]
    split <;> exact (hc.ne_of_le (by decide)).symm
  split
  · next hd =>
    rw [beq_iff_eq] at hd
    subst hd
    refine iff_of_false ?_ (hc.ne_of_le (by decide))
    simp only [List.mem_cons, List.not_mem_nil, or_false, not_or]
    exact ⟨(hc.ne_of_le (by decide)).symm, (hc.ne_of_le (by decide)).symm⟩
  · rw [List.mem_singleton, eq_comm, lowerLetter_eq_iff hc]

theorem lowerAt_mark (hc : IsMark c) (before after : Text) : lowerAt before c after = [c] := by
  have hsigma : c ≠ 'Σ' := (hc.ne_of_le (by decide)).symm
  have hdotted : c ≠ 'İ' := (hc.ne_of_le (by decide)).symm
  rw [lowerAt, if_neg (by simpa using hsigma), if_neg (by simpa using hdotted),
    (lowerLetter_eq_iff hc c).2 rfl]

theorem count_lower (hc : IsMark c) (t : Text) : (lower t).count c = t.count c := by
  have hfrom : ∀ before : Text, (lowerFrom before t).count c = t.count c := by
    induction t with
    | nil => exact fun _ => rfl
    | cons d t ih =>
      intro before
      rw [lowerFrom, List.count_append, ih]
      by_cases hd : d = c
      · rw [hd, lowerAt_mark hc, ← List.count_append, List.singleton_append]
      · rw [List.count_eq_zero_of_not_mem (mt (mem_lowerAt_iff hc before d t).1 hd), Nat.zero_add,
          List.count_cons_of_ne hd]
  exact hfrom []

theorem mem_lower_iff (hc : IsMark c) (t : Text) : c ∈ lower t ↔ c ∈ t := by
  rw [← List.count_pos_iff, count_lower hc, List.count_pos_iff]

theorem lowerAt_ne_nil (before : Text) (d : Char) (after : Text) : lowerAt before d after ≠ [] := by
  unfold lowerAt
  split_ifs <;> simp

theorem lower_eq_nil_iff {t : Text} : lower t = [] ↔ t = [] := by
  cases t with
  | nil => exact iff_of_true rfl rfl
  | cons d t => simp [lower, lowerFrom, lowerAt_ne_nil]

theorem head?_eq_of_lower (hc : IsMark c) {t : Text} (h : (lower t).head? = some c) :
    t.head? = some c := by
  cases t with
  | nil => exact h
  | cons d t =>
    rw [lower, lowerFrom, List.head?_append_of_ne_nil _ (lowerAt_ne_nil [] d t)] at h
    rw [List.head?_cons, (mem_lowerAt_iff hc [] d t).1 (List.mem_of_head? h)]

/-! ## Words -/

/-- No blank has case and none is passed over. -/
theorem apart_of_mem_ranges : ∀ r ∈ caseIgnorableRanges ++ casedRanges,
    0x20 < r.1 ∧ (r.2 < 0x85 ∨ 0x85 < r.1) ∧ (r.2 < 0xA0 ∨ 0xA0 < r.1) ∧
      (r.2 < 0x1680 ∨ 0x1680 < r.1) ∧ (r.2 < 0x2000 ∨ 0x200A < r.1) ∧
      (r.2 < 0x2028 ∨ 0x2029 < r.1) ∧ (r.2 < 0x202F ∨ 0x202F < r.1) ∧
      (r.2 < 0x205F ∨ 0x205F < r.1) ∧ (r.2 < 0x3000 ∨ 0x3000 < r.1) := by
  decide +kernel

theorem inRanges_of_blank {ranges : List (Nat × Nat)}
    (hranges : ranges ⊆ caseIgnorableRanges ++ casedRanges) (hc : isBlank c = true) :
    inRanges ranges c = false := by
  simp only [inRanges, List.any_eq_false, Bool.and_eq_true, decide_eq_true_eq]
  intro r hr
  have hapart := apart_of_mem_ranges r (hranges hr)
  simp only [isBlank, Bool.or_eq_true, Bool.and_eq_true, decide_eq_true_eq, beq_iff_eq] at hc
  omega

theorem meetsCased_append {rest : Text} (h : ∀ c ∈ rest.head?, isBlank c = true) (t : Text) :
    meetsCased (t ++ rest) = meetsCased t := by
  induction t with
  | nil =>
    cases rest with
    | nil => rfl
    | cons c rest =>
      have hpassed := inRanges_of_blank (List.subset_append_left ..) (h c rfl)
      have hcased := inRanges_of_blank (List.subset_append_right ..) (h c rfl)
      simp only [List.nil_append, meetsCased, hpassed, hcased, Bool.false_eq_true, if_false]
  | cons d t ih => rw [List.cons_append, meetsCased, meetsCased, ih]

/-- What stands in front of a blank is lowered on its own. -/
theorem lower_prefix_lower {rest : Text} (h : ∀ c ∈ rest.head?, isBlank c = true) (t : Text) :
    lower t <+: lower (t ++ rest) := by
  have hfrom : ∀ before : Text, lowerFrom before t <+: lowerFrom before (t ++ rest) := by
    induction t with
    | nil => exact fun _ => List.nil_prefix
    | cons d t ih =>
      intro before
      have hat : lowerAt before d (t ++ rest) = lowerAt before d t := by
        rw [lowerAt, lowerAt, meetsCased_append h]
      rw [List.cons_append, lowerFrom, lowerFrom, hat]
      exact (List.prefix_append_right_inj _).2 (ih _)
  exact hfrom []

end FilterBar.Text
