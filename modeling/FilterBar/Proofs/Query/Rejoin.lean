import FilterBar.Proofs.Editor.View
import FilterBar.Proofs.Query.Placement

/-!
# The tokens of a query joined again

The tokens of a query, with a blank between each two, make a query of normal form. It need not have
the same tokens: where a blank was escaped at the end of a run and trimmed, the token is left open and
takes in the next one. Nothing else can happen. No token but the last leaves a quotation open
(`steady_tokens`), and behind an open escape and a blank a scan stands where a run begins. So the new
tokens are the old ones, each that is left open joined to the one behind it (`tokens_ofTokens`), and
the text stays the same from then on: `normal_normal`.

A token that is added or removed has the other tokens joined in this way. `edits_one_token_iff` says
when they stay as they are. They could stay so more often: with two blanks between them all tokens but
those behind an open quotation are kept apart (`exists_tokens_eq_iff`).
-/

namespace FilterBar

namespace Query

open Scan (plain)

variable {query t u p q token : Text} {ts : List Text}

/-! ## Quotations that are left open -/

/-- Tidy texts that are one token each, of which none but the last leaves a quotation open. An escape may
be left open by any of them. -/
structure Steady (ts : List Text) : Prop where
  tidy : ∀ t ∈ ts, Text.Tidy t
  covers : ∀ t ∈ ts, plain.Covers t
  unquoted : ∀ t ∈ ts.dropLast, (plain.after t).quoted = false

/-- The end of a run is behind all quotations, and stripping takes none away. -/
theorem Leads.unquoted_strip {u rest : Text} (h : Leads u rest) (hrest : rest ≠ []) :
    (plain.after (Text.strip u)).quoted = false := by
  obtain ⟨b, r, rfl⟩ := List.exists_cons_of_ne_nil hrest
  obtain ⟨w, hw, hblank, -⟩ := h.exists_strip
  have hquote : '"' ∉ w := fun hmem => absurd (hblank _ hmem) (by decide)
  have hend : plain.after u = plain :=
    (Scan.ends_iff_of_blank (h.isBlank b rfl)).1 (h.ended b rfl)
  rw [hw, Scan.after_append] at hend
  rw [← quoted_after hquote, hend]
  rfl

theorem steady_tokens (query : Text) : Steady (tokens query) where
  tidy t ht := tidy_of_mem_tokens ht
  covers t ht := covers_of_mem_tokens ht
  unquoted := by
    induction query using run_induction with
    | nil => simp [tokens_nil]
    | blank b r hb ih => rwa [tokens_cons_of_blank hb]
    | run u rest hlead ih =>
      rw [hlead.tokens]
      intro t ht
      by_cases hlater : tokens rest = []
      · simp [hlater] at ht
      · rw [List.dropLast_cons_of_ne_nil hlater] at ht
        rcases List.mem_cons.1 ht with rfl | ht
        · refine hlead.unquoted_strip ?_
          rintro rfl
          exact hlater tokens_nil
        · exact ih t ht

theorem steady_cons_cons (h : Steady (t :: u :: ts)) :
    (plain.after t).quoted = false ∧ Steady (u :: ts) :=
  ⟨h.unquoted t (by simp), fun x hx => h.tidy x (by simp [hx]), fun x hx => h.covers x (by simp [hx]),
    fun x hx => h.unquoted x (by simp [hx])⟩

/-! ## Tokens that join -/

/-- Joins each text that is left open to what is behind it. -/
def linked : List Text → List Text
  | [] => []
  | t :: ts =>
    match linked ts with
    | [] => [t]
    | u :: us => if Closed t then t :: u :: us else (t ++ ' ' :: u) :: us

theorem linked_ne_nil (t : Text) (ts : List Text) : linked (t :: ts) ≠ [] := by
  unfold linked
  split
  · simp
  · split <;> simp

theorem ofTokens_append_cons (t u : Text) (ts : List Text) :
    ofTokens ((t ++ u) :: ts) = t ++ ofTokens (u :: ts) := by
  cases ts with
  | nil => rfl
  | cons v vs => simp [ofTokens, Text.joinWith]

theorem ofTokens_cons_cons (t u : Text) (ts : List Text) :
    ofTokens (t :: u :: ts) = t ++ ' ' :: ofTokens (u :: ts) := by
  simp [ofTokens, Text.joinWith]

theorem ofTokens_linked (ts : List Text) : ofTokens (linked ts) = ofTokens ts := by
  induction ts with
  | nil => rfl
  | cons t ts ih =>
    cases ts with
    | nil => rfl
    | cons u us =>
      obtain ⟨v, vs, hv⟩ := List.exists_cons_of_ne_nil (linked_ne_nil u us)
      rw [hv] at ih
      rw [linked, hv, ofTokens_cons_cons, ← ih]
      simp only
      split
      · exact ofTokens_cons_cons t v vs
      · simpa using ofTokens_append_cons (t ++ [' ']) v vs

/-- What stands in front of a run and leaves a scan where the run begins is taken into the run. -/
theorem tokens_append_of_after (hhead : ∀ c ∈ p.head?, Text.isBlank c = false)
    (hcov : plain.Covers p) (hafter : plain.after p = plain)
    (hq : ∀ c ∈ q.head?, Text.isBlank c = false) (h : tokens q = t :: ts) :
    tokens (p ++ q) = (p ++ t) :: ts := by
  cases p with
  | nil => exact h
  | cons c r =>
    cases q with
    | nil => simp [tokens_nil] at h
    | cons d s =>
      obtain ⟨u, rest, hcut, hlead⟩ := exists_leads (hq d rfl) s
      rw [hcut, hlead.tokens] at h
      obtain ⟨rfl, rfl⟩ := List.cons.inj h
      obtain ⟨w, hw, hblank, htidy⟩ := hlead.exists_strip
      have hlead' : Leads (c :: r ++ u) rest := by
        refine ⟨⟨c, r ++ u, rfl, hhead c rfl⟩, ?_, ?_⟩
        · exact Scan.covers_append.2 ⟨hcov, by rw [hafter]; exact hlead.covers⟩
        · rw [Scan.after_append, hafter]
          exact hlead.ended
      have htidy' : Text.Tidy (c :: r ++ Text.strip u) := by
        refine ⟨by simp, hhead, fun d hd => htidy.last d ?_⟩
        rwa [List.getLast?_append_of_ne_nil _ htidy.ne_nil] at hd
      rw [hcut, ← List.append_assoc, hlead'.tokens]
      congr 1
      conv_lhs => rw [hw, ← List.append_assoc]
      exact htidy'.strip_append hblank

/-- Texts of which none but the last leaves a quotation open are read as the texts, each that is left
open joined to the one behind it. -/
theorem tokens_ofTokens (h : Steady ts) : tokens (ofTokens ts) = linked ts := by
  induction ts with
  | nil => rfl
  | cons t ts ih =>
    have htidy := h.tidy t (by simp)
    have hcov := h.covers t (by simp)
    cases ts with
    | nil => exact (tokens_eq_singleton_iff htidy).2 hcov
    | cons u us =>
      obtain ⟨hquoted, hlater⟩ := steady_cons_cons h
      have hrest := ih hlater
      obtain ⟨v, vs, hv⟩ := List.exists_cons_of_ne_nil (linked_ne_nil u us)
      rw [hv] at hrest
      rw [ofTokens_cons_cons, linked, hv]
      simp only
      split
      · next hclosed => rw [tokens_append_of_closed htidy hcov hclosed rfl, hrest]
      · next hopen =>
        -- The open escape takes the blank.
        have hescape := Scan.eq_escaped hquoted hopen
        have hhead : ∀ c ∈ (t ++ [' ']).head?, Text.isBlank c = false := by
          rw [List.head?_append_of_ne_nil t htidy.ne_nil]
          exact htidy.head
        have hcov' : plain.Covers (t ++ [' ']) :=
          Scan.covers_append.2 ⟨hcov, by rw [hescape]; rfl⟩
        have hafter : plain.after (t ++ [' ']) = plain := by
          rw [Scan.after_append, hescape]
          rfl
        have hnext : ∀ c ∈ (ofTokens (u :: us)).head?, Text.isBlank c = false := by
          obtain ⟨w, hw⟩ := ofTokens_cons u us
          have hu := hlater.tidy u (by simp)
          rw [hw, List.head?_append_of_ne_nil u hu.ne_nil]
          exact hu.head
        have hjoin := tokens_append_of_after hhead hcov' hafter hnext hrest
        simpa using hjoin

/-! ## Tokens of some query -/

/-- With two blanks between each two of them such texts are read back as they are: an open escape takes
the first blank, and it is trimmed again. -/
theorem tokens_joinWith (h : Steady ts) : tokens (Text.joinWith [' ', ' '] ts) = ts := by
  induction ts with
  | nil => rfl
  | cons t ts ih =>
    have htidy := h.tidy t (by simp)
    have hcov := h.covers t (by simp)
    cases ts with
    | nil => exact (tokens_eq_singleton_iff htidy).2 hcov
    | cons u us =>
      obtain ⟨hquoted, hlater⟩ := steady_cons_cons h
      have hblank : tokens (' ' :: Text.joinWith [' ', ' '] (u :: us)) = u :: us := by
        rw [tokens_cons_of_blank rfl, ih hlater]
      have hsplit : Text.joinWith [' ', ' '] (t :: u :: us) =
          t ++ ' ' :: (' ' :: Text.joinWith [' ', ' '] (u :: us)) := by
        simp [Text.joinWith]
      rw [hsplit, (tokens_append_blank_iff htidy hcov hquoted rfl _).2 (.inr (by simp; rfl)), hblank]

theorem exists_tokens_eq_iff : (∃ query, tokens query = ts) ↔ Steady ts := by
  constructor
  · rintro ⟨query, rfl⟩
    exact steady_tokens query
  · exact fun h => ⟨_, tokens_joinWith h⟩

theorem Steady.of_sublist {us : List Text} (h : Steady ts) (hsub : us.Sublist ts) : Steady us := by
  have hlast : us.dropLast.Sublist ts.dropLast := by
    have htail := hsub.reverse.tail
    rwa [List.tail_reverse, List.tail_reverse, List.reverse_sublist] at htail
  exact ⟨fun t ht => h.tidy t (hsub.subset ht), fun t ht => h.covers t (hsub.subset ht),
    fun t ht => h.unquoted t (hlast.subset ht)⟩

theorem steady_concat_iff (htoken : tokens token = [token]) :
    Steady (tokens query ++ [token]) ↔ ∀ t ∈ tokens query, (plain.after t).quoted = false := by
  have htidy := tidy_of_single htoken
  have hcov := (tokens_eq_singleton_iff htidy).1 htoken
  have hold := steady_tokens query
  constructor
  · intro h
    simpa using h.unquoted
  · intro h
    refine ⟨fun t ht => ?_, fun t ht => ?_, by simpa using h⟩
    · rcases List.mem_append.1 ht with ht | ht
      · exact hold.tidy t ht
      · rwa [List.mem_singleton.1 ht]
    · rcases List.mem_append.1 ht with ht | ht
      · exact hold.covers t ht
      · rwa [List.mem_singleton.1 ht]

/-! ## Adding and removing a token -/

theorem tokens_ofTokens_eq_iff (h : ∀ t ∈ ts, tokens t = [t]) :
    tokens (ofTokens ts) = ts ↔ ∀ t ∈ ts.dropLast, Closed t := by
  rw [tokens_ofTokens_iff fun t ht => tidy_of_single (h t ht)]
  exact ⟨fun hapart => hapart.closed, fun hclosed => ⟨h, hclosed⟩⟩

theorem append_of_mem (h : token ∈ tokens query) : append query token = query := by
  simp [append, h]

theorem append_of_not_mem (h : token ∉ tokens query) :
    append query token = ofTokens (tokens query ++ [token]) := by
  simp only [append, h, if_false]
  split
  · next hnil => simp [List.isEmpty_iff.1 hnil, ofTokens_singleton]
  · rfl

def letters (t : Text) : Text := t.filter fun c => !Text.isBlank c

theorem letters_append (t u : Text) : letters (t ++ u) = letters t ++ letters u :=
  List.filter_append ..

theorem letters_of_blank (h : ∀ c ∈ t, Text.isBlank c = true) : letters t = [] := by
  rw [letters, List.filter_eq_nil_iff]
  simpa using h

theorem letters_ofTokens (ts : List Text) : letters (ofTokens ts) = ts.flatMap letters := by
  induction ts with
  | nil => rfl
  | cons t ts ih =>
    cases ts with
    | nil => simp [ofTokens_singleton]
    | cons u us =>
      have hblank : letters [' '] = [] := rfl
      rw [ofTokens_cons_cons, ← List.singleton_append, letters_append, letters_append, hblank, ih]
      rfl

theorem flatMap_letters_tokens (query : Text) : (tokens query).flatMap letters = letters query := by
  induction query using run_induction with
  | nil => rfl
  | blank b r hb ih =>
    rw [tokens_cons_of_blank hb, ih]
    simp [letters, hb]
  | run u rest hlead ih =>
    obtain ⟨w, hw, hblank, -⟩ := hlead.exists_strip
    have hu : letters (Text.strip u) = letters u := by
      conv_rhs => rw [hw, letters_append, letters_of_blank hblank, List.append_nil]
    rw [hlead.tokens, List.flatMap_cons, ih, hu, letters_append]

theorem isBlank_of_tokens_eq_nil (h : tokens t = []) : ∀ c ∈ t, Text.isBlank c = true := by
  have hletters := flatMap_letters_tokens t
  rw [h, List.flatMap_nil, eq_comm, letters, List.filter_eq_nil_iff] at hletters
  simpa using hletters

theorem append_eq_self_iff (ht : Text.Tidy token) : append query token = query ↔ token ∈ tokens query := by
  refine ⟨fun h => ?_, append_of_mem⟩
  by_contra hmem
  obtain ⟨c, r, rfl⟩ := List.exists_cons_of_ne_nil ht.ne_nil
  have hc : Text.isBlank c = false := ht.head c rfl
  -- The query would have the letters of the token twice.
  have hletters := congrArg letters h
  rw [append_of_not_mem hmem, letters_ofTokens, List.flatMap_append, flatMap_letters_tokens,
    List.append_right_eq_self] at hletters
  simp [letters, hc] at hletters

theorem tokens_append_iff (htoken : tokens token = [token]) (h : token ∉ tokens query) :
    tokens (append query token) = tokens query ++ [token] ↔ ∀ t ∈ tokens query, Closed t := by
  have hsingle : ∀ t ∈ tokens query ++ [token], tokens t = [t] := by
    intro t ht
    rcases List.mem_append.1 ht with ht | ht
    · exact tokens_of_mem_tokens ht
    · rw [List.mem_singleton.1 ht, htoken]
  rw [append_of_not_mem h, tokens_ofTokens_eq_iff hsingle, List.dropLast_concat]

theorem append_append (htoken : tokens token = [token]) (hclosed : ∀ t ∈ tokens query, Closed t) :
    append (append query token) token = append query token := by
  by_cases h : token ∈ tokens query
  · rw [append_of_mem h, append_of_mem h]
  · refine append_of_mem ?_
    rw [(tokens_append_iff htoken h).2 hclosed]
    simp

theorem tokens_removeAt_iff {place : Int} (h : 0 ≤ place ∧ place < (tokens query).length) :
    tokens (removeAt query place) = (tokens query).eraseIdx place.toNat ↔
      ∀ t ∈ ((tokens query).eraseIdx place.toNat).dropLast, Closed t := by
  have hremove : removeAt query place = ofTokens ((tokens query).eraseIdx place.toNat) := by
    simp only [removeAt, if_pos h]
  rw [hremove]
  exact tokens_ofTokens_eq_iff fun t ht => tokens_of_mem_tokens (List.mem_of_mem_eraseIdx ht)

/-- Adding a token leaves the query as it is just if the token is there already. Otherwise the tokens
are the old ones with the new one behind them just if all old ones are closed, and then adding it once
more changes nothing. No query at all has these tokens just if an old one leaves a quotation open.
Removing the token at a place leaves the other tokens just if each of these but the last is closed,
although some query always has them, and there is nothing to remove at a place outside of the list. -/
theorem edits_one_token_iff (query : Text) :
    (∀ token, tokens token = [token] →
      (append query token = query ↔ token ∈ tokens query) ∧
      (token ∉ tokens query →
        (tokens (append query token) = tokens query ++ [token] ↔ ∀ t ∈ tokens query, Closed t)) ∧
      ((∃ other, tokens other = tokens query ++ [token]) ↔
        ∀ t ∈ tokens query, (plain.after t).quoted = false) ∧
      ((∀ t ∈ tokens query, Closed t) →
        append (append query token) token = append query token)) ∧
    ∀ place : Int,
      (0 ≤ place ∧ place < (tokens query).length →
        (tokens (removeAt query place) = (tokens query).eraseIdx place.toNat ↔
          ∀ t ∈ ((tokens query).eraseIdx place.toNat).dropLast, Closed t)) ∧
      (∃ other, tokens other = (tokens query).eraseIdx place.toNat) ∧
      (¬ (0 ≤ place ∧ place < (tokens query).length) → removeAt query place = query) := by
  refine ⟨fun token htoken => ⟨append_eq_self_iff (tidy_of_single htoken),
    tokens_append_iff htoken, ?_, append_append htoken⟩,
    fun place => ⟨tokens_removeAt_iff, ?_, fun h => ?_⟩⟩
  · exact exists_tokens_eq_iff.trans (steady_concat_iff htoken)
  · exact exists_tokens_eq_iff.2 ((steady_tokens query).of_sublist (List.eraseIdx_sublist _ _))
  · simp only [removeAt, if_neg h]

/-- A quoted value behind another one, and a token in front of both taken away. -/
theorem edits_one_token_of_quoted :
    tokens "-crate:\"b c\"" = ["-crate:\"b c\""] ∧
      tokens (append "x  +id:\"1 a\"" "-crate:\"b c\"") =
        ["x", "+id:\"1 a\"", "-crate:\"b c\""] ∧
      tokens (removeAt "x  +id:\"1 a\"" 0) = ["+id:\"1 a\""] := by
  have htoken : tokens "-crate:\"b c\"" = ["-crate:\"b c\""] := by decide
  obtain ⟨hadd, hremove⟩ := edits_one_token_iff "x  +id:\"1 a\""
  refine ⟨htoken, ?_, ?_⟩
  · exact (((hadd _ htoken).2.1 (by decide)).2 (by decide)).trans (by decide)
  · exact (((hremove 0).1 (by decide)).2 (by decide)).trans (by decide)

/-- A token that ends on an open escape takes in the one behind it when another token is added or
removed, although there are queries that have the tokens apart. Behind a quotation that is left open
nothing can be added as a token of its own: no query has another token there. -/
theorem open_end_takes_added_token :
    tokens "a\\  b c" = ["a\\", "b", "c"] ∧
      tokens (removeAt "a\\  b c" 2) = ["a\\ b"] ∧
      tokens "a\\  b" = ["a\\", "b"] ∧
      tokens (append "a\\" "b") = ["a\\ b"] ∧
      tokens (append "a\\  b" "c") = ["a\\ b", "c"] ∧
      tokens "b" = ["b"] ∧
      tokens (append "\"a" "b") = ["\"a b"] ∧
      append (append "\"a" "b") "b" ≠ append "\"a" "b" ∧
      (∀ query, tokens query ≠ ["\"a", "b"]) := by
  refine ⟨by decide, by decide, by decide, by decide, by decide, by decide, by decide, by decide,
    fun query h => ?_⟩
  have hunquoted := (steady_tokens query).unquoted
  rw [h] at hunquoted
  exact absurd (hunquoted "\"a" (by decide)) (by decide)

end Query

namespace Editor

open Query (tokens ofTokens linked)

theorem normal_eq (query : Text) : normal query = ofTokens (tokens query) := by
  have hbefore : (ofText query false).before = tokens query := by simp [before, ofText]
  have hbehind : (ofText query false).behind = [] := by simp [behind, ofText]
  have hdraft : (ofText query false).draft = [] := rfl
  rw [normal, text_eq (ofText_sound query false), hbefore, hbehind, hdraft, Query.tokens_nil]
  simp

/-- The query of normal form stays as it is when it is read again. Its tokens are those of the first
query, each that is left open joined to the one behind it. -/
theorem normal_normal (query : Text) :
    normal (normal query) = normal query ∧ tokens (normal query) = linked (tokens query) := by
  have htokens : tokens (normal query) = linked (tokens query) := by
    rw [normal_eq, Query.tokens_ofTokens (Query.steady_tokens query)]
  refine ⟨?_, htokens⟩
  rw [normal_eq (normal query), htokens, Query.ofTokens_linked, normal_eq]

/-- An escaped blank that is trimmed leaves its token open, which takes in the next one. -/
example : tokens "a\\  b  c" = ["a\\", "b", "c"] ∧ normal "a\\  b  c" = "a\\ b c" ∧
    tokens (normal "a\\  b  c") = ["a\\ b", "c"] := by
  decide

end Editor

end FilterBar
