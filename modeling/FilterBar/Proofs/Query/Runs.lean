import FilterBar.Proofs.Query.Span

/-!
# Runs at their places

A text is blanks and runs, one after the other. `Leads u rest` says that the run `u` stands in front
of `rest`; with it the runs of a text are read off with their offsets (`Leads.runsFrom`), and
`run_induction` is the induction that goes with it: one step for a blank, one for a whole run.
-/

namespace FilterBar.Query

open Scan (plain)

variable {s : Scan} {t u rest : Text} {c : Char}

/-! ## Where a run ends -/

theorem ne_of_isBlank {c d : Char} (hc : Text.isBlank c = true) (hd : Text.isBlank d = false) :
    c ≠ d := by
  rintro rfl
  simp [hc] at hd

theorem Scan.step_of_ends (h : s.ends c = true) : s.step c = plain := by
  have hblank := isBlank_of_ends h
  obtain rfl := (ends_iff_of_blank hblank).1 h
  have hs : c ≠ '\\' := ne_of_isBlank hblank rfl
  have hq : c ≠ '"' := ne_of_isBlank hblank rfl
  simp [step, plain, hs, hq]

theorem Scan.ends_of_mem_head?_span (s : Scan) (t : Text) :
    ∀ b ∈ (s.span t).2.head?, (s.after (s.span t).1).ends b = true := by
  induction t generalizing s with
  | nil => simp [span]
  | cons c r ih =>
    cases h : s.ends c with
    | true => simp [span_cons_of_ends h, h]
    | false =>
      rw [span_cons_of_not_ends h]
      exact ih (s.step c)

theorem Scan.span_of_ends (h : ∀ b ∈ t.head?, s.ends b = true) : s.span t = ([], t) := by
  cases t with
  | nil => rfl
  | cons b r => exact span_cons_of_ends (h b rfl) r

/-! ## A run in front -/

/-- The run `u` stands in front of `rest`: it begins with no blank, no character of it ends it, and
the first character of `rest` does. -/
structure Leads (u rest : Text) : Prop where
  head : ∃ c r, u = c :: r ∧ Text.isBlank c = false
  covers : plain.Covers u
  ended : ∀ b ∈ rest.head?, (plain.after u).ends b = true

theorem exists_leads (hc : Text.isBlank c = false) (r : Text) :
    ∃ u rest, c :: r = u ++ rest ∧ Leads u rest := by
  refine ⟨_, _, (Scan.span_fst_append_snd plain (c :: r)).symm, ?_, Scan.covers_span plain _,
    Scan.ends_of_mem_head?_span plain _⟩
  rw [Scan.span_cons_of_not_ends (Scan.not_ends_of_not_blank plain hc)]
  exact ⟨c, _, rfl, hc⟩

namespace Leads

theorem ne_nil (h : Leads u rest) : u ≠ [] := by
  obtain ⟨c, r, rfl, -⟩ := h.head
  simp

theorem span (h : Leads u rest) : plain.span (u ++ rest) = (u, rest) := by
  rw [Scan.span_append h.covers, Scan.span_of_ends h.ended, List.append_nil]

theorem isBlank (h : Leads u rest) : ∀ b ∈ rest.head?, Text.isBlank b = true :=
  fun b hb => Scan.isBlank_of_ends (h.ended b hb)

theorem exists_strip (h : Leads u rest) :
    ∃ w, u = Text.strip u ++ w ∧ (∀ b ∈ w, Text.isBlank b = true) ∧ Text.Tidy (Text.strip u) := by
  obtain ⟨c, r, rfl, hc⟩ := h.head
  obtain ⟨w, hw, hblank⟩ := Text.exists_strip_append hc r
  exact ⟨w, hw, hblank, Text.tidy_strip (Text.strip_cons_ne_nil hc r)⟩

theorem tokens (h : Leads u rest) :
    tokens (u ++ rest) = Text.strip u :: Query.tokens rest := by
  obtain ⟨c, r, hu, hc⟩ := h.head
  have hfirst := tokens_cons_of_not_blank hc (r ++ rest)
  rwa [← List.cons_append, ← hu, h.span] at hfirst

end Leads

/-! ## Runs with offsets -/

theorem runsFrom_cons_of_blank (o : Nat) (hc : Text.isBlank c = true) (r : Text) :
    (runsFrom o none (c :: r)).2 = (runsFrom (o + 1) none r).2 := by
  simp [runsFrom, hc]

theorem Leads.runsFrom (h : Leads u rest) (o : Nat) :
    (runsFrom o none (u ++ rest)).2 = ⟨o, u⟩ :: (runsFrom (o + u.length) none rest).2 := by
  obtain ⟨c, r, rfl, hc⟩ := h.head
  have hspan := h.span
  rw [List.cons_append, Scan.span_cons_of_not_ends (Scan.not_ends_of_not_blank plain hc)] at hspan
  obtain ⟨hrun, hrest⟩ := Prod.mk.inj hspan
  simp [Query.runsFrom, hc, runsFrom_open, (List.cons.inj hrun).2, hrest, Nat.add_assoc,
    Nat.add_comm 1]

/-- A text is nothing, or a blank and a text, or a run and what it stands in front of. -/
@[elab_as_elim]
theorem run_induction {motive : Text → Prop} (nil : motive [])
    (blank : ∀ b r, Text.isBlank b = true → motive r → motive (b :: r))
    (run : ∀ u rest, Leads u rest → motive rest → motive (u ++ rest)) (t : Text) : motive t := by
  induction hn : t.length using Nat.strong_induction_on generalizing t with
  | _ n ih =>
    cases t with
    | nil => exact nil
    | cons c r =>
      cases hc : Text.isBlank c with
      | true => exact blank c r hc (ih r.length (by simp [← hn]) r rfl)
      | false =>
        obtain ⟨u, rest, hcut, hlead⟩ := exists_leads hc r
        have hlen := congrArg List.length hcut
        have hpos := List.length_pos_of_ne_nil hlead.ne_nil
        rw [List.length_append] at hlen
        rw [hcut]
        exact run u rest hlead (ih rest.length (by omega) rest rfl)

end FilterBar.Query
