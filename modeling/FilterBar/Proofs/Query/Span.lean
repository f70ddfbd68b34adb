import FilterBar.Proofs.Query.Tidy

/-!
# The first run and the rest

`Scan.span` cuts a text where the run that is open before it ends. With it the tokens of a query
are read off one after the other: `tokens_cons_of_blank` passes over a blank, and
`tokens_cons_of_not_blank` takes the first run and goes on with the rest.

A text is covered by a scan if no character of it ends the run. `span_append` says that a covered
text is passed through, so that only what follows it counts.
-/

namespace FilterBar.Query

namespace Scan

variable {s : Scan} {t u : Text} {c : Char}

/-! ## The end of a run -/

/-- The part of a text that belongs to the open run, and the rest. -/
def span (s : Scan) : Text → Text × Text
  | [] => ([], [])
  | c :: r =>
    if s.ends c then ([], c :: r)
    else
      let (run, rest) := (s.step c).span r
      (c :: run, rest)

/-- The whole text belongs to the open run. -/
def Covers (s : Scan) (t : Text) : Prop := (s.span t).2 = []

instance (s : Scan) (t : Text) : Decidable (s.Covers t) := inferInstanceAs (Decidable (_ = _))

theorem span_cons_of_ends (h : s.ends c = true) (r : Text) : s.span (c :: r) = ([], c :: r) := by
  simp [span, h]

theorem span_cons_of_not_ends (h : s.ends c = false) (r : Text) :
    s.span (c :: r) = (c :: ((s.step c).span r).1, ((s.step c).span r).2) := by
  simp [span, h]

theorem isBlank_of_ends (h : s.ends c = true) : Text.isBlank c = true := by
  simp only [ends, Bool.and_eq_true] at h
  exact h.2

theorem not_ends_of_not_blank (s : Scan) (h : Text.isBlank c = false) : s.ends c = false := by
  simp [ends, h]

theorem ends_iff_of_blank (h : Text.isBlank c = true) : s.ends c = true ↔ s = plain := by
  obtain ⟨quoted, escaped⟩ := s
  cases quoted <;> cases escaped <;> simp [ends, h, plain]

theorem covers_nil (s : Scan) : s.Covers [] := rfl

theorem covers_cons : s.Covers (c :: t) ↔ s.ends c = false ∧ (s.step c).Covers t := by
  cases h : s.ends c with
  | true => simp [Covers, span_cons_of_ends h]
  | false => simp [Covers, span_cons_of_not_ends h]

theorem span_fst_append_snd (s : Scan) (t : Text) : (s.span t).1 ++ (s.span t).2 = t := by
  induction t generalizing s with
  | nil => rfl
  | cons c r ih =>
    cases h : s.ends c with
    | true => simp [span_cons_of_ends h]
    | false => simp [span_cons_of_not_ends h, ih]

/-- What follows a covered text is cut where the scan after that text cuts it. -/
theorem span_append (h : s.Covers t) (u : Text) :
    s.span (t ++ u) = (t ++ ((s.after t).span u).1, ((s.after t).span u).2) := by
  induction t generalizing s with
  | nil => simp
  | cons c r ih =>
    obtain ⟨hc, hr⟩ := covers_cons.1 h
    rw [List.cons_append, span_cons_of_not_ends hc, ih hr, after_cons]
    rfl

theorem covers_append : s.Covers (t ++ u) ↔ s.Covers t ∧ (s.after t).Covers u := by
  induction t generalizing s with
  | nil => simp [covers_nil]
  | cons c r ih => rw [List.cons_append, covers_cons, covers_cons, ih, after_cons, and_assoc]

theorem covers_span (s : Scan) (t : Text) : s.Covers (s.span t).1 := by
  induction t generalizing s with
  | nil => rfl
  | cons c r ih =>
    cases h : s.ends c with
    | true => rw [span_cons_of_ends h]; rfl
    | false =>
      rw [span_cons_of_not_ends h, covers_cons]
      exact ⟨h, ih _⟩

theorem covers_of_forall_not_blank (h : ∀ c ∈ t, Text.isBlank c = false) : s.Covers t := by
  induction t generalizing s with
  | nil => rfl
  | cons c r ih =>
    rw [covers_cons]
    exact ⟨not_ends_of_not_blank s (h c (by simp)), ih fun d hd => h d (by simp [hd])⟩

end Scan

/-! ## Tokens one by one -/

open Scan (plain)

theorem runsFrom_offset (o o' : Nat) (s : Option Scan) (t : Text) :
    (runsFrom o s t).1 = (runsFrom o' s t).1 ∧
      (runsFrom o s t).2.map Run.token = (runsFrom o' s t).2.map Run.token := by
  induction t generalizing o o' s with
  | nil => cases s <;> exact ⟨rfl, rfl⟩
  | cons c r ih =>
    cases s with
    | none =>
      by_cases hb : Text.isBlank c = true
      · simp only [runsFrom, hb, if_true, true_and]
        exact (ih (o + 1) (o' + 1) none).2
      · obtain ⟨h₁, h₂⟩ := ih (o + 1) (o' + 1) (some (plain.step c))
        simp [runsFrom, hb, Run.token, h₁, h₂]
    | some s =>
      by_cases he : s.ends c = true
      · simp only [runsFrom, he, if_true, true_and]
        exact (ih (o + 1) (o' + 1) none).2
      · obtain ⟨h₁, h₂⟩ := ih (o + 1) (o' + 1) (some (s.step c))
        simp [runsFrom, he, h₁, h₂]

theorem map_token_runsFrom (o : Nat) (t : Text) : (runsFrom o none t).2.map Run.token = tokens t :=
  (runsFrom_offset o 0 none t).2

theorem tokens_cons_of_blank {c : Char} (h : Text.isBlank c = true) (r : Text) :
    tokens (c :: r) = tokens r := by
  simp only [tokens, runs, runsFrom, h, if_true]
  exact map_token_runsFrom 1 r

/-- An open run takes what `span` gives it, and the later runs are those of the rest. -/
theorem runsFrom_open (o : Nat) (s : Scan) (t : Text) :
    runsFrom o (some s) t =
      ((s.span t).1, (runsFrom (o + (s.span t).1.length) none (s.span t).2).2) := by
  induction t generalizing o s with
  | nil => simp [runsFrom, Scan.span]
  | cons c r ih =>
    cases he : s.ends c with
    | true =>
      simp [runsFrom, he, Scan.span_cons_of_ends he, Scan.isBlank_of_ends he]
    | false =>
      rw [runsFrom, he, ih, Scan.span_cons_of_not_ends he]
      simp [Nat.add_assoc, Nat.add_comm 1]

theorem tokens_cons_of_not_blank {c : Char} (h : Text.isBlank c = false) (r : Text) :
    tokens (c :: r) = Text.strip (plain.span (c :: r)).1 :: tokens (plain.span (c :: r)).2 := by
  have hruns : tokens (c :: r) = Text.strip (c :: (runsFrom 1 (some (plain.step c)) r).1) ::
      (runsFrom 1 (some (plain.step c)) r).2.map Run.token := by
    simp [tokens, runs, runsFrom, h, Run.token]
  rw [hruns, runsFrom_open, map_token_runsFrom,
    Scan.span_cons_of_not_ends (Scan.not_ends_of_not_blank plain h)]

theorem tokens_of_blank {t : Text} (h : ∀ c ∈ t, Text.isBlank c = true) : tokens t = [] := by
  induction t with
  | nil => rfl
  | cons c r ih =>
    rw [tokens_cons_of_blank (h c (by simp))]
    exact ih fun d hd => h d (by simp [hd])

end FilterBar.Query
