import Mathlib.Algebra.BigOperators.Group.List.Lemmas
import FilterBar.Proofs.Document.Place

/-!
# Offsets and places one to one

A place marks an offset if the lines in front of it, their line feeds and its column make up the offset
(`Place.Marks`). No place is left out and no two places mark the same offset, since a later place marks
a later offset (`Place.Marks.lt`). `places_correspond` brings this together: the offsets of a source and
its places correspond one to one and in order, and a place is told unless it is too far for that.
-/

namespace FilterBar.Document

variable {source text : Text} {p q : Place} {line line' column o k : Nat}

/-! ## Lines in front -/

theorem lineStart_eq (h : (source.splitOn '\n')[line]? = some text) :
    lineStart source line = (((source.splitOn '\n').take line).map List.length).sum + line := by
  obtain ⟨hlt, -⟩ := List.getElem?_eq_some_iff.1 h
  have hlen : ((source.splitOn '\n').take line).length = line := List.length_take_of_le (by omega)
  rw [lineStart, List.sum_map_add, List.map_const', List.sum_replicate_nat, hlen, Nat.mul_one]

theorem lineStart_add_lt (h : (source.splitOn '\n')[line]? = some text) (hlt : line < line') :
    lineStart source line + text.length < lineStart source line' := by
  obtain ⟨more, hmore⟩ : (source.splitOn '\n').take (line + 1) <+: (source.splitOn '\n').take line' :=
    List.take_prefix_take_left hlt
  have htake : (source.splitOn '\n').take (line + 1) = (source.splitOn '\n').take line ++ [text] := by
    rw [List.take_add_one, h, Option.toList_some]
  rw [lineStart, lineStart, ← hmore, htake]
  simp only [List.map_append, List.sum_append, List.map_cons, List.map_nil, List.sum_cons,
    List.sum_nil]
  omega

/-- Behind the last line is the end of the source and one line feed more. -/
theorem lineStart_length (source : Text) :
    lineStart source (source.splitOn '\n').length = source.length + 1 := by
  rw [lineStart, List.take_length, sum_length_splitOn]

/-! ## Marks -/

/-- The source has the line, the column lies in it or at its end, and the lines in front, their line
feeds and the column are as many characters as the offset says. -/
def Place.Marks (p : Place) (source : Text) (o : Nat) : Prop :=
  ∃ line column text, p = ⟨(line : Nat), (column : Nat)⟩ ∧
    (source.splitOn '\n')[line]? = some text ∧ column ≤ text.length ∧
    (((source.splitOn '\n').take line).map List.length).sum + line + column = o

theorem offsetOf?_eq_some_iff : offsetOf? source p = some o ↔ p.Marks source o := by
  constructor
  · intro h
    obtain ⟨line | _, column | _⟩ := p <;> simp only [offsetOf?, reduceCtorEq] at h
    obtain ⟨text, htext, h⟩ := Option.bind_eq_some_iff.1 h
    split at h
    · next hle =>
      rw [lineStart_eq htext] at h
      exact ⟨line, column, text, rfl, htext, hle, Option.some.inj h⟩
    · cases h
  · rintro ⟨line, column, text, rfl, htext, hle, rfl⟩
    simp only [offsetOf?, htext, Option.bind_some, if_pos hle, lineStart_eq htext]

namespace Place

theorem precedes_trichotomy (p q : Place) : p.Precedes q ∨ p = q ∨ q.Precedes p := by
  obtain ⟨line, column⟩ := p
  obtain ⟨line', column'⟩ := q
  simp only [Precedes, Place.mk.injEq]
  omega

namespace Marks

theorem le_length (h : p.Marks source o) : o ≤ source.length := by
  obtain ⟨line, column, text, rfl, htext, hle, rfl⟩ := h
  obtain ⟨hlt, -⟩ := List.getElem?_eq_some_iff.1 htext
  have hend := lineStart_add_lt htext hlt
  rw [lineStart_length, lineStart_eq htext] at hend
  omega

theorem lt (h : p.Marks source o) (h' : q.Marks source k) (hpq : p.Precedes q) : o < k := by
  obtain ⟨line, column, text, rfl, htext, hle, rfl⟩ := h
  obtain ⟨line', column', text', rfl, htext', -, rfl⟩ := h'
  rw [← lineStart_eq htext, ← lineStart_eq htext']
  rcases hpq with hline | ⟨hline, hcolumn⟩
  · -- The column may be at the end of its line, which is still in front of the next line.
    have hend := lineStart_add_lt htext (Int.ofNat_lt.1 hline)
    omega
  · obtain rfl : line = line' := Int.ofNat_inj.1 hline
    have hlt : column < column' := Int.ofNat_lt.1 hcolumn
    omega

theorem unique (h : p.Marks source o) (h' : q.Marks source o) : p = q := by
  rcases precedes_trichotomy p q with hpq | heq | hqp
  · exact absurd (h.lt h' hpq) (Nat.lt_irrefl o)
  · exact heq
  · exact absurd (h'.lt h hqp) (Nat.lt_irrefl o)

theorem isTellable_iff (h : p.Marks source o) :
    p.isTellable = true ↔ p.line ≤ greatest ∧ p.column ≤ greatest := by
  obtain ⟨line, column, -, rfl, -⟩ := h
  simp only [isTellable, Bool.and_eq_true, decide_eq_true_eq]
  omega

end Marks

end Place

/-! ## The correspondence -/

theorem marks_placeOf (ho : o ≤ source.length) : (placeOf source o).Marks source o :=
  offsetOf?_eq_some_iff.1 (offsetOf?_placeOf ho)

theorem placeOf_eq_iff : o ≤ source.length ∧ placeOf source o = p ↔ p.Marks source o := by
  constructor
  · rintro ⟨ho, rfl⟩
    exact marks_placeOf ho
  · exact fun h => ⟨h.le_length, (marks_placeOf h.le_length).unique h⟩

theorem precedes_placeOf_iff (ho : o ≤ source.length) (hk : k ≤ source.length) :
    (placeOf source o).Precedes (placeOf source k) ↔ o < k :=
  ⟨(marks_placeOf ho).lt (marks_placeOf hk), fun hlt => precedes_placeOf hlt hk⟩

theorem placeOf?_eq_some_iff (ho : o ≤ source.length) :
    placeOf? source o = some p ↔
      p.Marks source o ∧ p.line ≤ Place.greatest ∧ p.column ≤ Place.greatest := by
  constructor
  · intro h
    rw [placeOf?] at h
    split at h
    · next htell =>
      obtain rfl := Option.some.inj h
      exact ⟨marks_placeOf ho, (marks_placeOf ho).isTellable_iff.1 htell⟩
    · cases h
  · rintro ⟨hp, hle⟩
    obtain ⟨-, rfl⟩ := placeOf_eq_iff.2 hp
    rw [placeOf?, if_pos (hp.isTellable_iff.2 hle)]

/-- Offsets and places correspond one to one: the place of an offset is the only one that marks it, and
each place that marks an offset is the place of it. They come in the same order. A place is told just if
its line and its column can be, which all can in a source that is not too long. -/
theorem places_correspond (source : Text) :
    (∀ o p, o ≤ source.length ∧ placeOf source o = p ↔ p.Marks source o) ∧
      (∀ o k, o ≤ source.length → k ≤ source.length →
        ((placeOf source o).Precedes (placeOf source k) ↔ o < k)) ∧
      (∀ o p, o ≤ source.length → (placeOf? source o = some p ↔
        p.Marks source o ∧ p.line ≤ Place.greatest ∧ p.column ≤ Place.greatest)) ∧
      (source.length ≤ Place.greatest → ∀ o ≤ source.length,
        placeOf? source o = some (placeOf source o)) := by
  refine ⟨fun _ _ => placeOf_eq_iff, fun _ _ => precedes_placeOf_iff,
    fun _ _ => placeOf?_eq_some_iff, fun hlen o ho => ?_⟩
  rw [placeOf?, if_pos (isTellable_placeOf ho hlen)]

/-- At a line feed, on the empty line behind it, behind the next one, and at the end of the source. -/
example :
    [2, 3, 4, 6].map (fun o : Nat => placeOf "ab\n\nc\n" o) = [⟨0, 2⟩, ⟨1, 0⟩, ⟨2, 0⟩, ⟨3, 0⟩] := by
  decide

end FilterBar.Document
