import FilterBar.Proofs.Query.Runs

/-!
# Tokens that stay apart

Tokens written one after the other with a blank between each two need not read back as the same
tokens: a quotation or an escape that is left open takes the blank and the next token with it.
`tokens_ofTokens_iff` says which lists of tidy texts read back as they are: those of which each text
is one token and each but the last is closed. Texts that are not tidy never read back, so the same
is true of all lists of texts (`tokens_ofTokens_eq_self_iff`).
-/

namespace FilterBar.Query

open Scan (plain)

variable {t u w : Text}

/-- The text ends outside quotations and on no open escape. -/
def Closed (t : Text) : Prop := plain.after t = plain

instance (t : Text) : Decidable (Closed t) := inferInstanceAs (Decidable (_ = _))

/-- Each text is one token, and no text but the last leaves a quotation or an escape open. -/
structure Apart (ts : List Text) : Prop where
  single : ∀ t ∈ ts, tokens t = [t]
  closed : ∀ t ∈ ts.dropLast, Closed t

instance (ts : List Text) : Decidable (Apart ts) :=
  decidable_of_iff ((∀ t ∈ ts, tokens t = [t]) ∧ ∀ t ∈ ts.dropLast, Closed t)
    ⟨fun h => ⟨h.1, h.2⟩, fun h => ⟨h.single, h.closed⟩⟩

/-! ## The first token -/

/-- A text that begins with a tidy one begins with a run. -/
theorem tokens_append (ht : Text.Tidy t) (u : Text) :
    tokens (t ++ u) =
      Text.strip (plain.span (t ++ u)).1 :: tokens (plain.span (t ++ u)).2 := by
  obtain ⟨c, r, rfl⟩ := List.exists_cons_of_ne_nil ht.ne_nil
  exact tokens_cons_of_not_blank (ht.head c rfl) (r ++ u)

theorem exists_span_append (ht : Text.Tidy t) (u : Text) :
    ∃ w, (plain.span (t ++ u)).1 = Text.strip (plain.span (t ++ u)).1 ++ w ∧
      ∀ c ∈ w, Text.isBlank c = true := by
  obtain ⟨c, r, rfl⟩ := List.exists_cons_of_ne_nil ht.ne_nil
  have hc : Text.isBlank c = false := ht.head c rfl
  rw [List.cons_append, Scan.span_cons_of_not_ends (Scan.not_ends_of_not_blank plain hc)]
  exact Text.exists_strip_append hc _

theorem covers_of_strip_span (ht : Text.Tidy t) (h : Text.strip (plain.span (t ++ u)).1 = t) :
    plain.Covers t := by
  obtain ⟨w, hw, -⟩ := exists_span_append ht u
  rw [h] at hw
  exact (Scan.covers_append.1 (hw ▸ Scan.covers_span plain (t ++ u))).1

theorem tokens_append_blanks (ht : Text.Tidy t) (hc : plain.Covers t)
    (hw : ∀ c ∈ w, Text.isBlank c = true) : tokens (t ++ w) = [t] := by
  have hcut := Scan.span_fst_append_snd (plain.after t) w
  have hrun : ∀ d ∈ ((plain.after t).span w).1, Text.isBlank d = true :=
    fun d hd => hw d (hcut ▸ List.mem_append_left _ hd)
  have hrest : ∀ d ∈ ((plain.after t).span w).2, Text.isBlank d = true :=
    fun d hd => hw d (hcut ▸ List.mem_append_right _ hd)
  rw [tokens_append ht, Scan.span_append hc, ht.strip_append hrun, tokens_of_blank hrest]

theorem tidy_of_single (h : tokens t = [t]) : Text.Tidy t := by
  have hmem : t ∈ tokens t := by simp [h]
  exact tidy_of_mem_tokens hmem

theorem tokens_eq_singleton_iff (ht : Text.Tidy t) : tokens t = [t] ↔ plain.Covers t := by
  constructor
  · intro h
    have hsplit := tokens_append ht []
    rw [List.append_nil, h] at hsplit
    have := covers_of_strip_span ht (u := []) (by simpa using (List.cons.inj hsplit).1.symm)
    exact this
  · intro h
    simpa using tokens_append_blanks ht h (w := []) (by simp)

theorem covers_of_mem_tokens {query : Text} (h : t ∈ tokens query) : plain.Covers t := by
  induction query using run_induction with
  | nil => cases h
  | blank b r hb ih =>
    rw [tokens_cons_of_blank hb] at h
    exact ih h
  | run u rest hlead ih =>
    rw [hlead.tokens] at h
    rcases List.mem_cons.1 h with rfl | h
    · -- Stripping takes a piece off the end of the run.
      obtain ⟨w, hw, -⟩ := hlead.exists_strip
      exact (Scan.covers_append.1 (hw ▸ hlead.covers)).1
    · exact ih h

theorem tokens_of_mem_tokens {query : Text} (h : t ∈ tokens query) : tokens t = [t] :=
  (tokens_eq_singleton_iff (tidy_of_mem_tokens h)).2 (covers_of_mem_tokens h)

theorem length_le_of_mem_tokens {query : Text} (h : t ∈ tokens query) : t.length ≤ query.length := by
  induction query using run_induction with
  | nil => simp [tokens_nil] at h
  | blank b r hb ih =>
    rw [tokens_cons_of_blank hb] at h
    have := ih h
    simp only [List.length_cons]
    omega
  | run u rest hlead ih =>
    rw [hlead.tokens] at h
    rw [List.length_append]
    rcases List.mem_cons.1 h with rfl | h
    · obtain ⟨w, hw, -⟩ := hlead.exists_strip
      have := congrArg List.length hw
      rw [List.length_append] at this
      omega
    · have := ih h
      omega

/-! ## A blank behind a token -/

theorem tokens_append_of_closed (ht : Text.Tidy t) (hc : plain.Covers t) (hcl : Closed t) {b : Char}
    (hb : Text.isBlank b = true) (u : Text) : tokens (t ++ b :: u) = t :: tokens u := by
  rw [tokens_append ht, Scan.span_append hc, hcl,
    Scan.span_cons_of_ends ((Scan.ends_iff_of_blank hb).2 rfl), List.append_nil, ht.strip_eq,
    tokens_cons_of_blank hb]

/-- A token that is left open takes the blank and the next character with it. -/
theorem strip_span_ne_of_not_closed (ht : Text.Tidy t) (hc : plain.Covers t) (hopen : ¬ Closed t)
    {b : Char} (hb : Text.isBlank b = true) {d : Char} (hd : Text.isBlank d = false) (r : Text) :
    Text.strip (plain.span (t ++ b :: d :: r)).1 ≠ t := by
  intro h
  obtain ⟨w, hw, hblank⟩ := exists_span_append ht (b :: d :: r)
  have hends : (plain.after t).ends b = false :=
    Bool.eq_false_iff.2 fun h => hopen ((Scan.ends_iff_of_blank hb).1 h)
  rw [h, Scan.span_append hc, Scan.span_cons_of_not_ends hends,
    Scan.span_cons_of_not_ends (Scan.not_ends_of_not_blank _ hd)] at hw
  have hmem : d ∈ w := by
    rw [← List.append_cancel_left hw]
    simp
  rw [hblank d hmem] at hd
  exact Bool.noConfusion hd

/-- A text reads as the first token of a query just if it is one token and ends at the blank behind
it. -/
theorem tokens_append_eq_cons_iff (ht : Text.Tidy t) (hu : Text.Tidy u) {b : Char}
    (hb : Text.isBlank b = true) (v : Text) {ts : List Text} :
    tokens (t ++ b :: (u ++ v)) = t :: ts ↔
      plain.Covers t ∧ Closed t ∧ tokens (u ++ v) = ts := by
  constructor
  · intro h
    have hstrip := (List.cons.inj ((tokens_append ht _).symm.trans h)).1
    have hc := covers_of_strip_span ht hstrip
    have hcl : Closed t := by
      by_contra hopen
      obtain ⟨d, q, rfl⟩ := List.exists_cons_of_ne_nil hu.ne_nil
      exact strip_span_ne_of_not_closed ht hc hopen hb (hu.head d rfl) (q ++ v) hstrip
    rw [tokens_append_of_closed ht hc hcl hb] at h
    exact ⟨hc, hcl, (List.cons.inj h).2⟩
  · rintro ⟨hc, hcl, rfl⟩
    exact tokens_append_of_closed ht hc hcl hb _

theorem tokens_of_closed_append {d c : Text} (h : tokens (d ++ c) = [d ++ c]) (hd : Closed d)
    (hc : c ≠ []) : tokens c = [c] := by
  have htidy := tidy_of_single h
  have hcov := (Scan.covers_append.1 ((tokens_eq_singleton_iff htidy).1 h)).2
  rw [hd] at hcov
  have htidy' : Text.Tidy c := by
    refine ⟨hc, fun b hb => ?_, fun b hb => htidy.last b ?_⟩
    · obtain ⟨r, rfl⟩ : ∃ r, c = b :: r := ⟨c.tail, (List.cons_head?_tail hb).symm⟩
      by_contra hblank
      have hends := (Scan.ends_iff_of_blank (by simpa using hblank)).2 rfl
      exact absurd (Scan.covers_cons.1 hcov).1 (by simp [hends])
    · rwa [List.getLast?_append_of_ne_nil d hc]
  exact (tokens_eq_singleton_iff htidy').2 hcov

/-! ## Lists of tokens -/

theorem apart_cons_cons {ts : List Text} :
    Apart (t :: u :: ts) ↔ tokens t = [t] ∧ Closed t ∧ Apart (u :: ts) := by
  constructor
  · rintro ⟨h₁, h₂⟩
    exact ⟨h₁ t (by simp), h₂ t (by simp), fun x hx => h₁ x (by simp [hx]),
      fun x hx => h₂ x (by simp [hx])⟩
  · rintro ⟨h₁, h₂, h₃, h₄⟩
    refine ⟨fun x hx => ?_, fun x hx => ?_⟩
    · rcases List.mem_cons.1 hx with rfl | hx
      · exact h₁
      · exact h₃ x hx
    · rcases List.mem_cons.1 hx with rfl | hx
      · exact h₂
      · exact h₄ x hx

theorem ofTokens_singleton (t : Text) : ofTokens [t] = t := rfl

theorem ofTokens_cons (t : Text) (ts : List Text) : ∃ v, ofTokens (t :: ts) = t ++ v := by
  cases ts with
  | nil => exact ⟨[], (List.append_nil t).symm⟩
  | cons u us => exact ⟨[' '] ++ ofTokens (u :: us), List.append_assoc ..⟩

theorem tokens_ofTokens_iff {ts : List Text} (h : ∀ t ∈ ts, Text.Tidy t) :
    tokens (ofTokens ts) = ts ↔ Apart ts := by
  induction ts with
  | nil => exact iff_of_true rfl ⟨by simp, by simp⟩
  | cons t ts ih =>
    have ht := h t (by simp)
    cases ts with
    | nil =>
      rw [ofTokens_singleton]
      exact ⟨fun h => ⟨by simpa using h, by simp⟩, fun h => h.single t (by simp)⟩
    | cons u us =>
      have hu := h u (by simp)
      obtain ⟨v, hv⟩ := ofTokens_cons u us
      have hjoin : ofTokens (t :: u :: us) = t ++ ' ' :: (u ++ v) := by
        rw [← hv]
        exact List.append_assoc ..
      rw [hjoin, tokens_append_eq_cons_iff ht hu rfl, ← hv, ih fun x hx => h x (by simp [hx]),
        apart_cons_cons, tokens_eq_singleton_iff ht]

/-- Any texts that are joined to a query read back as the same texts just if each of them is one
token and each but the last ends outside quotations and on no open escape. -/
theorem tokens_ofTokens_eq_self_iff (ts : List Text) :
    tokens (ofTokens ts) = ts ↔
      (∀ t ∈ ts, tokens t = [t]) ∧ ∀ t ∈ ts.dropLast, Closed t := by
  constructor
  · intro h
    have htidy : ∀ t ∈ ts, Text.Tidy t := fun t ht => by
      rw [← h] at ht
      exact tidy_of_mem_tokens ht
    have hapart := (tokens_ofTokens_iff htidy).1 h
    exact ⟨hapart.single, hapart.closed⟩
  · rintro ⟨hsingle, hclosed⟩
    have htidy : ∀ t ∈ ts, Text.Tidy t := fun t ht => by
      have hmem : t ∈ tokens t := by simp [hsingle t ht]
      exact tidy_of_mem_tokens hmem
    exact (tokens_ofTokens_iff htidy).2 ⟨hsingle, hclosed⟩

/-! ## Texts that stand anywhere in a list -/

/-- A tidy text that is one token and is closed at its end. -/
structure Whole (t : Text) : Prop where
  tidy : Text.Tidy t
  covers : plain.Covers t
  closed : Closed t

theorem whole_of_mem_tokens {query : Text} (h : t ∈ tokens query) (hc : Closed t) : Whole t :=
  ⟨tidy_of_mem_tokens h, covers_of_mem_tokens h, hc⟩

theorem Whole.after_eq (h : Whole t) : plain.after t = plain := h.closed

theorem Whole.append (ht : Whole t) (hu : Whole u) : Whole (t ++ u) where
  tidy := ht.tidy.append hu.tidy
  covers := Scan.covers_append.2 ⟨ht.covers, by rw [ht.after_eq]; exact hu.covers⟩
  closed := by
    rw [Closed, Scan.after_append, ht.after_eq]
    exact hu.closed

theorem single_of_whole (h : Whole t) : tokens t = [t] :=
  (tokens_eq_singleton_iff h.tidy).2 h.covers

theorem apart_of_whole {ts : List Text} (h : ∀ t ∈ ts, Whole t) : Apart ts where
  single t ht := single_of_whole (h t ht)
  closed t ht := (h t (List.dropLast_subset ts ht)).closed

end FilterBar.Query
