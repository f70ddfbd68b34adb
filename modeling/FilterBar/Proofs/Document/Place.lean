import Mathlib.Algebra.Ring.Nat
import Mathlib.Data.List.Basic
import FilterBar.Document

/-!
# Places and offsets

A place counts lines and columns, an offset counts characters. `offsetOf?` reads a place back by the
lines of a source: there has to be a line of this number, and the column has to lie in it or at its
end. `offsetOf?_placeOf` says that the place of an offset reads back as the offset, and
`precedes_placeOf` that later offsets have later places.

Both are proved on a source that is cut at an offset into whole lines, the begun line, and the rest
(`exists_front`).
-/

namespace FilterBar.Document

variable {source front line rest : Text} {o k : Nat}

/-! ## Places as offsets -/

/-- The number of characters in front of a line: those of the lines before it, with their line
feeds. -/
def lineStart (source : Text) (line : Nat) : Nat :=
  (((source.splitOn '\n').take line).map fun l => l.length + 1).sum

/-- The offset of a place, if the source has the place. -/
def offsetOf? (source : Text) (p : Place) : Option Nat :=
  match p.line, p.column with
  | .ofNat line, .ofNat column =>
    ((source.splitOn '\n')[line]?).bind fun l =>
      if column ≤ l.length then some (lineStart source line + column) else none
  | _, _ => none

def Place.Precedes (p q : Place) : Prop :=
  p.line < q.line ∨ (p.line = q.line ∧ p.column < q.column)

instance (p q : Place) : Decidable (p.Precedes q) := inferInstanceAs (Decidable (_ ∨ _))

/-! ## Whole lines in front -/

/-- Nothing, or lines up to the end of the last one. -/
def IsFront (front : Text) : Prop := front = [] ∨ ∃ r, front = r ++ ['\n']

/-- A text is whole lines and a line that is begun. -/
theorem exists_front (t : Text) : ∃ front line, t = front ++ line ∧ IsFront front ∧ '\n' ∉ line := by
  by_cases h : '\n' ∈ t.reverse
  · obtain ⟨a, b, ht, ha⟩ := List.eq_append_cons_of_mem h
    refine ⟨b.reverse ++ ['\n'], a.reverse, ?_, .inr ⟨_, rfl⟩, by simpa using ha⟩
    rw [← List.reverse_inj, ht]
    simp
  · exact ⟨[], t, rfl, .inl rfl, by simpa using h⟩

theorem length_splitOn (t : Text) : (t.splitOn '\n').length = t.count '\n' + 1 := by
  induction t with
  | nil => rfl
  | cons c r ih =>
    rw [List.splitOn_cons_eq_if_modifyHead]
    by_cases hc : c = '\n'
    · simp [hc, ih]
    · simp [hc, ih]

theorem sum_length_splitOn (t : Text) :
    ((t.splitOn '\n').map fun l => l.length + 1).sum = t.length + 1 := by
  induction t with
  | nil => rfl
  | cons c r ih =>
    obtain ⟨l, ls, hls⟩ := List.exists_cons_of_ne_nil (List.splitOn_ne_nil '\n' r)
    rw [List.splitOn_cons_eq_if_modifyHead]
    rw [hls] at ih ⊢
    by_cases hc : c = '\n'
    · simp only [hc, beq_self_eq_true, if_true, List.map_cons, List.sum_cons, List.length_cons,
        List.length_nil] at ih ⊢
      omega
    · simp only [beq_iff_eq, hc, if_false, List.modifyHead_cons, List.map_cons, List.sum_cons,
        List.length_cons] at ih ⊢
      omega

theorem IsFront.exists_lines (h : IsFront front) (t : Text) :
    ∃ ls, (front ++ t).splitOn '\n' = ls ++ t.splitOn '\n' ∧ ls.length = front.count '\n' ∧
      (ls.map fun l => l.length + 1).sum = front.length := by
  rcases h with rfl | ⟨r, rfl⟩
  · exact ⟨[], rfl, rfl, rfl⟩
  · refine ⟨r.splitOn '\n', ?_, ?_, ?_⟩
    · rw [List.append_assoc]
      exact List.splitOn_append_cons_self r t
    · simp [length_splitOn]
    · rw [sum_length_splitOn, List.length_append, List.length_singleton]

theorem exists_first_line (h : '\n' ∉ line) (rest : Text) :
    ∃ l ls, (line ++ rest).splitOn '\n' = l :: ls ∧ line.length ≤ l.length := by
  by_cases hrest : '\n' ∈ rest
  · obtain ⟨a, b, rfl, ha⟩ := List.eq_append_cons_of_mem hrest
    have hline : '\n' ∉ line ++ a := by simp [h, ha]
    refine ⟨line ++ a, b.splitOn '\n', ?_, by simp⟩
    rw [← List.append_assoc]
    exact List.splitOn_append_cons_self_of_not_mem hline b
  · exact ⟨line ++ rest, [], List.splitOn_eq_singleton (by simp [h, hrest]), by simp⟩

/-! ## The place of an offset -/

theorem line_placeOf (source : Text) (o : Nat) :
    (placeOf source o).line = ((source.take o).count '\n' : Nat) := by
  rw [placeOf, Cut.before_ofNat]

theorem lengthOfLastLine?_front (h : IsFront front) (hline : '\n' ∉ line) :
    lengthOfLastLine? (front ++ line) = if front = [] then none else some line.length := by
  rcases h with rfl | ⟨r, rfl⟩
  · simp [lengthOfLastLine?, hline]
  · have htake : (line.reverse ++ '\n' :: r.reverse).takeWhile (· != '\n') = line.reverse := by
      rw [List.takeWhile_append_of_pos fun c hc => ?_]
      · simp
      · have hne : c ≠ '\n' := by
          rintro rfl
          exact hline (List.mem_reverse.1 hc)
        simpa using hne
    simp [lengthOfLastLine?, htake]

/-- Behind whole lines and a begun line the place is given by their numbers of lines and
characters. -/
theorem IsFront.placeOf (h : IsFront front) (hline : '\n' ∉ line) (rest : Text) :
    placeOf (front ++ line ++ rest) ((front ++ line).length : Nat) =
      ⟨(front.count '\n' : Nat), (line.length : Nat)⟩ := by
  have hcount : line.count '\n' = 0 := List.count_eq_zero.2 hline
  rw [Document.placeOf, Cut.before_ofNat, List.take_left, lengthOfLastLine?_front h hline]
  by_cases hfront : front = []
  · simp [hfront, hcount]
  · rw [if_neg hfront, List.count_append, hcount, Nat.add_zero, Place.mk.injEq]
    refine ⟨rfl, ?_⟩
    show ((front ++ line).length : Int) - ((front ++ line).length - line.length) = line.length
    omega

theorem exists_front_of_le (ho : o ≤ source.length) :
    ∃ front line rest, source = front ++ line ++ rest ∧ o = (front ++ line).length ∧
      IsFront front ∧ '\n' ∉ line := by
  obtain ⟨front, line, htake, hfront, hline⟩ := exists_front (source.take o)
  refine ⟨front, line, source.drop o, ?_, ?_, hfront, hline⟩
  · rw [← htake, List.take_append_drop]
  · rw [← htake, List.length_take, Nat.min_eq_left ho]

theorem offsetOf?_placeOf (ho : o ≤ source.length) : offsetOf? source (placeOf source o) = some o := by
  obtain ⟨front, line, rest, rfl, rfl, hfront, hline⟩ := exists_front_of_le ho
  obtain ⟨ls, hls, hlen, hsum⟩ := hfront.exists_lines (line ++ rest)
  obtain ⟨l, ls', hfirst, hle⟩ := exists_first_line hline rest
  rw [hfront.placeOf hline rest]
  rw [← List.append_assoc, hfirst] at hls
  simp only [offsetOf?, lineStart, hls, ← hlen, List.take_left, hsum]
  simp [hle]

theorem precedes_placeOf (hlt : o < k) (hk : k ≤ source.length) :
    (placeOf source o).Precedes (placeOf source k) := by
  obtain ⟨front, line, rest, rfl, rfl, hfront, hline⟩ := exists_front_of_le (Nat.le_trans (Nat.le_of_lt hlt) hk)
  obtain ⟨mid, rest, rfl, rfl⟩ : ∃ mid rest', rest = mid ++ rest' ∧
      k = (front ++ line ++ mid).length := by
    refine ⟨rest.take (k - (front ++ line).length), _, (List.take_append_drop _ _).symm, ?_⟩
    rw [List.length_append] at hk
    rw [List.length_append, List.length_take]
    omega
  rw [hfront.placeOf hline]
  by_cases hmid : '\n' ∈ mid
  · -- A line ends in between.
    refine .inl ?_
    rw [line_placeOf, ← List.append_assoc, List.take_left]
    have hpos := List.count_pos_iff.2 hmid
    simp only [List.count_append]
    omega
  · have hline' : '\n' ∉ line ++ mid := by simp [hline, hmid]
    have hplace := hfront.placeOf hline' rest
    simp only [← List.append_assoc] at hplace ⊢
    rw [hplace]
    refine .inr ⟨rfl, ?_⟩
    simp only [List.length_append] at hlt ⊢
    omega

theorem isTellable_placeOf (ho : o ≤ source.length) (hlen : source.length ≤ Place.greatest) :
    (placeOf source o).isTellable = true := by
  obtain ⟨front, line, rest, rfl, rfl, hfront, hline⟩ := exists_front_of_le ho
  have hcount : front.count '\n' ≤ front.length := List.count_le_length
  rw [hfront.placeOf hline rest]
  simp only [List.length_append] at hlen
  simp only [Place.isTellable, Bool.and_eq_true, decide_eq_true_eq]
  omega

end FilterBar.Document
