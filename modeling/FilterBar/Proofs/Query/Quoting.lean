import FilterBar.Proofs.Query.Value

/-!
# Quoting and back

A value with a character, and with no blank and no double quote, is a word (`IsWord`) and needs no
quotes. Any other value is put between double quotes, and `unquote_enquote` says that it is read back
from there.

One kind of value falls between the two. A word with a line feed behind it is taken for a word
(`isBare_iff`), so it is written as it is and loses the line feed when it is read. `unquote_quote_iff`
says that this is all that can go wrong.
-/

namespace FilterBar.Query

variable {v t b : Text}

/-- A text that needs no quotes: it has characters, and none of them is a blank or a double quote. -/
structure IsWord (t : Text) : Prop where
  ne_nil : t ≠ []
  letters : ∀ c ∈ t, Text.isBlank c = false ∧ c ≠ '"'

/-! ## Words and bare values -/

theorem IsWord.tidy (h : IsWord t) : Text.Tidy t :=
  tidy_of_forall_not_blank h.ne_nil fun c hc => (h.letters c hc).1

theorem not_isWord_lineFeed (t : Text) : ¬ IsWord (t ++ ['\n']) := by
  intro h
  have hfeed := (h.letters '\n' (by simp)).1
  exact absurd hfeed (by decide)

theorem isBare_eq_true_iff : isBare v = true ↔ IsWord (dropFinalLineFeed v) := by
  constructor
  · intro h
    obtain ⟨hne, hletters⟩ : dropFinalLineFeed v ≠ [] ∧
        ∀ c ∈ dropFinalLineFeed v, Text.isBlank c = false ∧ c ≠ '"' := by simpa [isBare] using h
    exact ⟨hne, hletters⟩
  · rintro ⟨hne, hletters⟩
    simpa [isBare] using ⟨hne, hletters⟩

/-- A value is written without quotes if it is a word, and also if it is one but for the line feed at
its end. -/
theorem isBare_iff : isBare v = true ↔ IsWord v ∨ ∃ t, IsWord t ∧ v = t ++ ['\n'] := by
  rw [isBare_eq_true_iff]
  by_cases hlast : v.getLast? = some '\n'
  · obtain ⟨t, rfl⟩ := List.getLast?_eq_some_iff.1 hlast
    have hdrop : dropFinalLineFeed (t ++ ['\n']) = t := by simp [dropFinalLineFeed]
    rw [hdrop, or_iff_right (not_isWord_lineFeed t)]
    simp
  · have hdrop : dropFinalLineFeed v = v := by simp [dropFinalLineFeed, hlast]
    rw [hdrop, or_iff_left]
    rintro ⟨t, -, rfl⟩
    simp at hlast

/-! ## Writing -/

theorem length_lt_enquote (v : Text) : v.length < (enquote v).length := by
  have hescape : v.length ≤ (escape v).length := by
    induction v with
    | nil => simp [escape]
    | cons c r ih =>
      unfold escape
      split <;> simp only [List.length_cons] <;> omega
  simp only [enquote, List.length_cons, List.length_append]
  omega

theorem quote_eq_self_iff : quote v = v ↔ isBare v = true := by
  unfold quote
  split
  · next h => exact iff_of_true rfl h
  · next h =>
    refine iff_of_false (fun heq => ?_) h
    have := length_lt_enquote v
    rw [heq] at this
    omega

/-! ## Reading back -/

theorem unquote_strip (w : Text) : unquote (Text.strip w) = unquote w := by
  rw [unquote, unquote, Text.strip_strip]

theorem unquote_word_append (h : IsWord t) (hb : ∀ c ∈ b, Text.isBlank c = true) :
    unquote (t ++ b) = t := by
  rw [← unquote_strip, h.tidy.strip_append hb]
  obtain ⟨c, r, rfl⟩ := List.exists_cons_of_ne_nil h.ne_nil
  exact unquote_of_ne_quote h.tidy (h.letters c (by simp)).2

theorem unquote_word (h : IsWord t) : unquote t = t := by
  simpa using unquote_word_append h (b := []) (by simp)

theorem unquote_word_lineFeed (h : IsWord t) : unquote (t ++ ['\n']) = t :=
  unquote_word_append h (by simp; decide)

/-- A value is read back from how it is written, and is written as it is just if it is a word, unless
it is a word with a line feed behind it. That is written as it is too, and read without the line feed.
-/
theorem unquote_quote_iff (v : Text) :
    (unquote (quote v) = v ↔ ¬ ∃ t, IsWord t ∧ v = t ++ ['\n']) ∧
      ((quote v = v ↔ IsWord v) ↔ ¬ ∃ t, IsWord t ∧ v = t ++ ['\n']) ∧
      ∀ t, IsWord t → quote (t ++ ['\n']) = t ++ ['\n'] ∧ unquote (t ++ ['\n']) = t := by
  have hwritten : ∀ t, IsWord t → quote (t ++ ['\n']) = t ++ ['\n'] := fun t ht =>
    quote_eq_self_iff.2 (isBare_iff.2 (.inr ⟨t, ht, rfl⟩))
  refine ⟨?_, ?_, fun t ht => ⟨hwritten t ht, unquote_word_lineFeed ht⟩⟩
  · by_cases hfeed : ∃ t, IsWord t ∧ v = t ++ ['\n']
    · refine iff_of_false ?_ (not_not_intro hfeed)
      obtain ⟨t, ht, rfl⟩ := hfeed
      rw [hwritten t ht, unquote_word_lineFeed ht]
      simp
    · refine iff_of_true ?_ hfeed
      cases hbare : isBare v with
      | true =>
        have hword := (isBare_iff.1 hbare).resolve_right hfeed
        rw [quote_eq_self_iff.2 hbare, unquote_word hword]
      | false =>
        have hquote : quote v = enquote v := by simp [quote, hbare]
        rw [hquote, unquote_enquote]
  · rw [quote_eq_self_iff, isBare_iff]
    constructor
    · rintro h ⟨t, ht, rfl⟩
      exact not_isWord_lineFeed t (h.1 (.inr ⟨t, ht, rfl⟩))
    · exact or_iff_left

/-- Backslashes and a double quote at the ends, and blanks that are no line feed. -/
example : quote "\\\"\\" = "\"\\\\\\\"\\\\\"" ∧ unquote (quote "\\\"\\") = "\\\"\\" ∧
    unquote (quote " a\n\n") = " a\n\n" := by
  decide

/-- A word with a line feed behind it is not quoted and loses the line feed. -/
theorem word_loses_line_feed :
    quote "a\n" = "a\n" ∧ ¬ IsWord "a\n" ∧ unquote (quote "a\n") = "a" ∧
      unquote (quote "a\n") ≠ "a\n" :=
  ⟨by decide, not_isWord_lineFeed "a", by decide, by decide⟩

end FilterBar.Query
