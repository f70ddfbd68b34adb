import FilterBar.Proofs.Query.Value

/-!
# Written values among other tokens

A key with a written value behind it is put into a query, between other tokens. What stands in front
of it is not touched as long as no token there is left open (`tokens_append_of_forall_closed`).
Between double quotes the value stays one token. A bare value is not escaped, so a backslash at its
end takes the blank behind it into the token, and a line feed at its end is taken for a blank:
`tokens_around_quote_iff` says when a query reads back with the value in its place.
-/

namespace FilterBar.Query

open Scan (plain)

variable {v f x : Text} {b : Char}

/-! ## Behind closed tokens -/

theorem Leads.strip_eq_of_closed {u rest : Text} (h : Leads u rest) (hc : Closed (Text.strip u)) :
    Text.strip u = u := by
  obtain ⟨w, hw, hblank, -⟩ := h.exists_strip
  cases w with
  | nil => simpa using hw.symm
  | cons d w =>
    -- The first blank behind the token would end the run.
    have hcov := (Scan.covers_append.1 (hw ▸ h.covers)).2
    rw [hc, Scan.covers_cons, (Scan.ends_iff_of_blank (hblank d (by simp))).2 rfl] at hcov
    exact absurd hcov.1 (by decide)

theorem tokens_append_of_forall_closed (hx : ∀ t ∈ tokens x, Closed t)
    (hb : Text.isBlank b = true) (y : Text) :
    tokens (x ++ b :: y) = tokens x ++ tokens y := by
  induction x using run_induction with
  | nil => exact tokens_cons_of_blank hb y
  | blank d r hd ih =>
    rw [tokens_cons_of_blank hd] at hx ⊢
    rw [List.cons_append, tokens_cons_of_blank hd]
    exact ih hx
  | run u rest hlead ih =>
    rw [hlead.tokens] at hx ⊢
    have hc : Closed (Text.strip u) := hx _ (by simp)
    have hstrip := hlead.strip_eq_of_closed hc
    obtain ⟨-, -, -, htidy⟩ := hlead.exists_strip
    rw [hstrip] at hc htidy ⊢
    have hih := ih fun t ht => hx t (by simp [ht])
    cases rest with
    | nil =>
      rw [List.append_nil, tokens_append_of_closed htidy hlead.covers hc hb]
      rfl
    | cons d r =>
      have hd := hlead.isBlank d rfl
      rw [List.cons_append, tokens_cons_of_blank hd] at hih
      rw [List.append_assoc, List.cons_append, tokens_append_of_closed htidy hlead.covers hc hd, hih]
      rfl

/-! ## In front of a blank -/

theorem quoted_after (h : '"' ∉ f) (s : Scan) : (s.after f).quoted = s.quoted := by
  induction f generalizing s with
  | nil => rfl
  | cons c r ih =>
    have hc : c ≠ '"' := fun hc => h (by simp [hc])
    rw [Scan.after_cons, ih fun hr => h (by simp [hr])]
    simp only [Scan.step, beq_iff_eq, hc, if_false]
    split_ifs <;> rfl

/-- Outside quotations a scan stands where a run begins, or behind an open escape. -/
theorem Scan.eq_escaped {s : Scan} (hq : s.quoted = false) (hs : s ≠ plain) :
    s = { escaped := true } := by
  obtain ⟨quoted, escaped⟩ := s
  cases escaped with
  | false => exact absurd (congrArg (Scan.mk · false) hq) hs
  | true => exact congrArg (Scan.mk · true) hq

/-- A token with an open escape takes a blank with it, which is trimmed again if the run ends there. -/
theorem tokens_append_blank_iff (ht : Text.Tidy f) (hcov : plain.Covers f)
    (hq : (plain.after f).quoted = false) (hb : Text.isBlank b = true) (y : Text) :
    tokens (f ++ b :: y) = f :: tokens y ↔
      Closed f ∨ ∀ c ∈ y.head?, Text.isBlank c = true := by
  by_cases hc : Closed f
  · exact iff_of_true (tokens_append_of_closed ht hcov hc hb y) (.inl hc)
  cases y with
  | nil =>
    refine iff_of_true ?_ (.inr nofun)
    exact tokens_append_blanks ht hcov (by simpa using hb)
  | cons d r =>
    cases hd : Text.isBlank d with
    | false =>
      refine iff_of_false (fun h => ?_) fun h => h.elim hc fun h => by simp [hd] at h
      have hstrip := (List.cons.inj ((tokens_append ht _).symm.trans h)).1
      exact strip_span_ne_of_not_closed ht hcov hc hb hd r hstrip
    | true =>
      refine iff_of_true ?_ (.inr fun c hcd => by simp at hcd; simpa [← hcd] using hd)
      have hescape := Scan.eq_escaped hq hc
      have hlead : Leads (f ++ [b]) (d :: r) := by
        refine ⟨?_, Scan.covers_append.2 ⟨hcov, ?_⟩, fun c hcd => ?_⟩
        · obtain ⟨c, q, rfl⟩ := List.exists_cons_of_ne_nil ht.ne_nil
          exact ⟨c, q ++ [b], rfl, ht.head c rfl⟩
        · rw [hescape]
          rfl
        · simp only [List.head?_cons, Option.mem_def, Option.some.injEq] at hcd
          rw [Scan.after_append, hescape, ← hcd]
          exact (Scan.ends_iff_of_blank hd).2 rfl
      have htokens := hlead.tokens
      rw [ht.strip_append (w := [b]) (by simpa using hb)] at htokens
      simpa using htokens

/-! ## Values between blanks -/

/-- What stands in front of a value: an axis key with a sign, or `focus`, and a colon. -/
inductive IsFront : Text → Prop
  | pick (sign : Sign) {key : Text} {axis : Axis} (h : Axis.ofKey? key = some axis) :
    IsFront (sign.mark :: (key ++ [':']))
  | focus : IsFront "focus:"

theorem IsFront.inert (h : IsFront f) : f ≠ [] ∧ ∀ c ∈ f, Inert c := by
  cases h with
  | pick sign h =>
    obtain ⟨-, hinert, -⟩ := plain_axisKeys _ (mem_axisKeys h)
    refine ⟨by simp, fun c hc => ?_⟩
    simp only [List.mem_cons, List.mem_append, List.not_mem_nil, or_false] at hc
    rcases hc with rfl | hc | rfl
    · exact inert_written (some sign) _ (by simp [Sign.written])
    · exact of_decide_eq_true (List.all_eq_true.1 hinert c hc)
    · decide
  | focus =>
    have hinert : ("focus:" : Text).all (Inert ·) = true := by decide
    exact ⟨by decide, fun c hc => of_decide_eq_true (List.all_eq_true.1 hinert c hc)⟩

theorem tokens_bare_iff {p : Text} (hp : Whole p) (hpq : '"' ∉ p) (hv : isBare v = true) (y : Text) :
    tokens (p ++ v ++ ' ' :: y) = (p ++ v) :: tokens y ↔
      v.getLast? ≠ some '\n' ∧ (Closed v ∨ ∀ c ∈ y.head?, Text.isBlank c = true) := by
  by_cases hlast : v.getLast? = some '\n'
  · -- No token ends with a line feed.
    refine iff_of_false (fun h => ?_) fun h => h.1 hlast
    have hmem : p ++ v ∈ tokens (p ++ v ++ ' ' :: y) := by
      rw [h]
      exact List.mem_cons_self
    have hend : '\n' ∈ (p ++ v).getLast? := by
      rw [List.getLast?_append, hlast]
      rfl
    exact absurd ((tidy_of_mem_tokens hmem).last _ hend) (by decide)
  · obtain ⟨hne, hchars⟩ := forall_of_isBare hv hlast
    have hletters : ∀ c ∈ v, Text.isBlank c = false := fun c hc => (hchars c hc).1
    have htidy := hp.tidy.append (tidy_of_forall_not_blank hne hletters)
    have hcov : plain.Covers (p ++ v) :=
      Scan.covers_append.2 ⟨hp.covers, Scan.covers_of_forall_not_blank hletters⟩
    have hq : '"' ∉ p ++ v := fun h =>
      (List.mem_append.1 h).elim hpq fun h => (hchars _ h).2 rfl
    have hclosed : Closed (p ++ v) ↔ Closed v := by
      rw [Closed, Scan.after_append, hp.after_eq, Closed]
    rw [tokens_append_blank_iff htidy hcov (quoted_after hq plain) rfl, hclosed]
    exact (and_iff_right hlast).symm

/-- A key and a value as it is written are one token between the tokens around them, unless the value
is bare and either a line feed is at its end, or an open escape with another token right behind it. -/
theorem tokens_around_quote_iff {p : Text} (hp : IsFront p) (hx : ∀ t ∈ tokens x, Closed t)
    (v y : Text) :
    tokens (x ++ [' '] ++ p ++ quote v ++ [' '] ++ y) =
        tokens x ++ [p ++ quote v] ++ tokens y ↔
      (isBare v = true → v.getLast? ≠ some '\n' ∧
        (Closed v ∨ ∀ c ∈ y.head?, Text.isBlank c = true)) := by
  obtain ⟨hne, hinert⟩ := hp.inert
  have hwhole := whole_of_inert hne hinert
  have hpq : '"' ∉ p := fun h => (hinert _ h).2.1 rfl
  have hquery : x ++ [' '] ++ p ++ quote v ++ [' '] ++ y =
      x ++ ' ' :: (p ++ quote v ++ ' ' :: y) := by simp
  rw [hquery, tokens_append_of_forall_closed hx rfl, List.append_assoc (tokens x),
    List.append_cancel_left_eq, List.singleton_append]
  cases hv : isBare v with
  | true =>
    have hquote : quote v = v := by simp [quote, hv]
    rw [hquote, tokens_bare_iff hwhole hpq hv]
    exact (imp_iff_right rfl).symm
  | false =>
    refine iff_of_true ?_ nofun
    have hquote : quote v = enquote v := by simp [quote, hv]
    have htoken := hwhole.append (whole_enquote v)
    rw [hquote]
    exact tokens_append_of_closed htoken.tidy htoken.covers htoken.closed rfl y

/-- A value with double quotes and a backslash at its end, behind a quotation and in front of an open
one. -/
theorem tokens_around_quoted_quotes :
    IsFront "-crate:" ∧ (∀ t ∈ tokens "+id:\"1 a\"", Closed t) ∧
      tokens ("+id:\"1 a\"" ++ [' '] ++ "-crate:" ++ quote "\"a\"\\" ++ [' '] ++ "\"b c") =
        ["+id:\"1 a\"", "-crate:\"\\\"a\\\"\\\\\"", "\"b c"] := by
  have hkey : Axis.ofKey? "crate" = some .crate := by decide
  have hfront : IsFront "-crate:" := .pick .minus hkey
  have hbefore : ∀ t ∈ tokens "+id:\"1 a\"", Closed t := by decide
  exact ⟨hfront, hbefore,
    ((tokens_around_quote_iff hfront hbefore "\"a\"\\" "\"b c").2 (by decide)).trans (by decide)⟩

/-- A bare value with a backslash at its end takes the next token with it, and one with a line feed
at its end loses it. -/
theorem bare_value_leaves_its_place :
    IsFront "+crate:" ∧ (∀ t ∈ tokens "x", Closed t) ∧
      quote "a\\" = "a\\" ∧
      tokens ("x" ++ [' '] ++ "+crate:" ++ quote "a\\" ++ [' '] ++ "y") = ["x", "+crate:a\\ y"] ∧
      tokens ("x" ++ [' '] ++ "+crate:" ++ quote "a\\" ++ [' '] ++ "y") ≠
        tokens "x" ++ [("+crate:" ++ quote "a\\" : Text)] ++ tokens "y" ∧
      quote "a\n" = "a\n" ∧
      tokens ("x" ++ [' '] ++ "+crate:" ++ quote "a\n" ++ [' '] ++ "y") =
        ["x", "+crate:a", "y"] := by
  have hkey : Axis.ofKey? "crate" = some .crate := by decide
  exact ⟨.pick .plus hkey, by decide⟩

end FilterBar.Query
