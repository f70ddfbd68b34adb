import Mathlib.Algebra.Ring.Nat
import Mathlib.Data.List.DropRight
import FilterBar.Query.Token

/-!
# Tidy tokens

A text is tidy if it has a character and no blank at either end. Stripping makes every text tidy
that does not vanish, and every token of a query is tidy.

`ofTokens` is taken apart here too: `ofTokens_append` at a place between two tokens,
`length_ofTokens` by length.
-/

namespace FilterBar

namespace Text

/-- Not empty, and without a blank at either end. -/
structure Tidy (t : Text) : Prop where
  ne_nil : t ≠ []
  head : ∀ c ∈ t.head?, isBlank c = false
  last : ∀ c ∈ t.getLast?, isBlank c = false

/-! ## Stripping -/

theorem strip_eq_rdropWhile (t : Text) : strip t = (t.dropWhile isBlank).rdropWhile isBlank := rfl

theorem strip_prefix_dropWhile (t : Text) : strip t <+: t.dropWhile isBlank :=
  List.rdropWhile_prefix ..

theorem not_blank_of_mem_head?_dropWhile {t : Text} {c : Char}
    (h : c ∈ (t.dropWhile isBlank).head?) : isBlank c = false := by
  have := List.head?_dropWhile_not isBlank t
  rw [Option.mem_def.1 h] at this
  exact this

theorem tidy_strip {t : Text} (h : strip t ≠ []) : Tidy (strip t) := by
  refine ⟨h, fun c hc => ?_, fun c hc => ?_⟩
  · obtain ⟨r, hr⟩ := strip_prefix_dropWhile t
    refine not_blank_of_mem_head?_dropWhile (t := t) ?_
    rw [← hr, List.head?_append_of_ne_nil _ h]
    exact hc
  · rw [List.getLast?_eq_some_getLast h, Option.mem_some_iff] at hc
    rw [← hc]
    exact Bool.eq_false_iff.2 (List.rdropWhile_last_not isBlank (t.dropWhile isBlank) h)

theorem strip_cons_ne_nil {c : Char} (hc : isBlank c = false) (r : Text) : strip (c :: r) ≠ [] := by
  intro h
  rw [strip_eq_rdropWhile, List.rdropWhile_eq_nil_iff] at h
  have := h c (by simp [hc])
  simp [hc] at this

theorem Tidy.strip_append {t w : Text} (h : Tidy t) (hw : ∀ c ∈ w, isBlank c = true) :
    strip (t ++ w) = t := by
  obtain ⟨c, r, rfl⟩ := List.exists_cons_of_ne_nil h.ne_nil
  have hc : isBlank c = false := h.head c rfl
  have hlast : (c :: r).rdropWhile isBlank = c :: r :=
    List.rdropWhile_eq_self_iff.2 fun hne => by
      simp [h.last _ (List.getLast?_eq_some_getLast hne)]
  rw [strip_eq_rdropWhile, List.cons_append, List.dropWhile_cons_of_neg (by simp [hc]),
    ← List.cons_append, List.rdropWhile, List.reverse_append,
    List.dropWhile_append_of_pos (by simpa using hw)]
  exact hlast

theorem Tidy.strip_eq {t : Text} (h : Tidy t) : strip t = t := by
  simpa using h.strip_append (w := []) (by simp)

theorem strip_strip (t : Text) : strip (strip t) = strip t := by
  by_cases h : strip t = []
  · rw [h]
    rfl
  · exact (tidy_strip h).strip_eq

theorem exists_strip_append {c : Char} (hc : isBlank c = false) (r : Text) :
    ∃ w, c :: r = strip (c :: r) ++ w ∧ ∀ d ∈ w, isBlank d = true := by
  refine ⟨(c :: r).rtakeWhile isBlank, ?_, fun d hd => List.mem_rtakeWhile_imp hd⟩
  rw [strip_eq_rdropWhile, List.dropWhile_cons_of_neg (by simp [hc]),
    List.rdropWhile_append_rtakeWhile]

theorem Tidy.append {t u : Text} (ht : Tidy t) (hu : Tidy u) : Tidy (t ++ u) where
  ne_nil := by simp [ht.ne_nil]
  head c hc := ht.head c (by rwa [List.head?_append_of_ne_nil t ht.ne_nil] at hc)
  last c hc := hu.last c (by rwa [List.getLast?_append_of_ne_nil t hu.ne_nil] at hc)

/-! ## Joining -/

theorem joinWith_append (sep : Text) {ts us : List Text} (ht : ts ≠ []) (hu : us ≠ []) :
    joinWith sep (ts ++ us) = joinWith sep ts ++ sep ++ joinWith sep us := by
  induction ts with
  | nil => exact absurd rfl ht
  | cons t ts ih =>
    cases ts with
    | nil =>
      obtain ⟨u, us, rfl⟩ := List.exists_cons_of_ne_nil hu
      simp [joinWith]
    | cons t' ts =>
      have := ih (by simp)
      simp only [List.cons_append] at this ⊢
      rw [joinWith, this, joinWith]
      simp

end Text

namespace Query

theorem tidy_of_mem_tokens {query t : Text} (h : t ∈ tokens query) : Text.Tidy t := by
  obtain ⟨run, hrun, rfl⟩ := List.mem_map.1 h
  obtain ⟨c, r, hr, hc⟩ := head_not_blank hrun
  refine Text.tidy_strip ?_
  rw [hr]
  exact Text.strip_cons_ne_nil hc r

/-! ## Queries from tokens -/

theorem ofTokens_append {ts us : List Text} (ht : ts ≠ []) (hu : us ≠ []) :
    ofTokens (ts ++ us) = ofTokens ts ++ [' '] ++ ofTokens us :=
  Text.joinWith_append _ ht hu

/-- Tokens in front of two queries do not change whether these are equal. -/
theorem ofTokens_append_inj (ts : List Text) {us vs : List Text} (h : us = [] ↔ vs = []) :
    ofTokens (ts ++ us) = ofTokens (ts ++ vs) ↔ ofTokens us = ofTokens vs := by
  by_cases ht : ts = []
  · simp [ht]
  by_cases hu : us = []
  · simp [hu, h.1 hu]
  rw [ofTokens_append ht hu, ofTokens_append ht (mt h.2 hu), List.append_cancel_left_eq]

theorem length_ofTokens (ts : List Text) :
    (ofTokens ts).length = (ts.map fun t => t.length + 1).sum - 1 := by
  induction ts with
  | nil => rfl
  | cons t ts ih =>
    cases ts with
    | nil => simp [ofTokens, Text.joinWith]
    | cons u us =>
      have ho : ofTokens (t :: u :: us) = t ++ [' '] ++ ofTokens (u :: us) := rfl
      rw [ho, List.length_append, ih]
      simp only [List.length_append, List.length_singleton, List.map_cons, List.sum_cons]
      omega

theorem length_ofTokens_perm {ts us : List Text} (h : ts.Perm us) :
    (ofTokens ts).length = (ofTokens us).length := by
  rw [length_ofTokens, length_ofTokens, (h.map _).sum_nat]

theorem length_ofTokens_lt (ts us : List Text) {t : Text} (ht : t ≠ []) :
    (ofTokens (ts ++ us)).length < (ofTokens (ts ++ t :: us)).length := by
  have := List.length_pos_of_ne_nil ht
  simp only [length_ofTokens, List.map_append, List.map_cons, List.sum_append, List.sum_cons]
  omega

end Query

end FilterBar
