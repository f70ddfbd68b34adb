import FilterBar.Document
import FilterBar.Proofs.Query.Join
import FilterBar.Proofs.Query.Scanner

/-!
# The fragment before the cursor

A completion replaces the token that ends at the cursor, as far as it has been typed. The fragment is
found by its length, counted back from the cursor, which is right as long as it is the last run of what
has been typed, with nothing trimmed from it (`exists_last_token`): `completions_replace_fragment`.

Whether there is such a token at all is told by a single character, the one before the cursor. A blank
ends a run only outside quotations and escapes, and `findsRun_iff` says that a blank inside of one is
just where the fragment misses the token.
-/

namespace FilterBar

namespace Query

open Scan (plain)

variable {t u front rest : Text} {c : Char} {run : Run}

/-! ## The last run -/

theorem Leads.of_append (h : Leads u (front ++ rest)) : Leads u front where
  head := h.head
  covers := h.covers
  ended b hb := h.ended b (by
    obtain ⟨r, rfl⟩ := List.head?_eq_some_iff.1 hb
    rfl)

/-- A text whose last character belongs to a run ends with this run. -/
theorem exists_last_run (h : (plain.kept t).getLast? = some true) :
    ∃ front u, t = front ++ u ∧ Leads u [] ∧
      ∀ o, (runsFrom o none t).2 = (runsFrom o none front).2 ++ [⟨o + front.length, u⟩] := by
  induction t using run_induction with
  | nil => cases h
  | blank b r hb ih =>
    rw [kept_cons_of_blank hb] at h
    cases r with
    | nil => cases h
    | cons c r =>
      obtain ⟨front, u, hcut, hlead, hruns⟩ := ih (by simpa [Scan.kept] using h)
      refine ⟨b :: front, u, by rw [hcut]; rfl, hlead, fun o => ?_⟩
      rw [runsFrom_cons_of_blank o hb, runsFrom_cons_of_blank o hb, hruns, List.length_cons, Nat.add_assoc,
        Nat.add_comm 1]
  | run u rest hlead ih =>
    cases rest with
    | nil =>
      refine ⟨[], u, by simp, hlead, fun o => ?_⟩
      rw [hlead.runsFrom]
      rfl
    | cons c r =>
      rw [hlead.kept] at h
      obtain ⟨front, v, hcut, hlast, hruns⟩ := ih (by simpa [Scan.kept] using h)
      have hfront : Leads u front := (hcut ▸ hlead).of_append
      refine ⟨u ++ front, v, by rw [hcut, List.append_assoc], hlast, fun o => ?_⟩
      rw [hlead.runsFrom, hfront.runsFrom, hruns, List.cons_append, List.length_append, Nat.add_assoc]

theorem Scan.kept_concat (s : Scan) (t : Text) (c : Char) :
    s.kept (t ++ [c]) = s.kept t ++ [!(s.after t).ends c] := by
  induction t generalizing s with
  | nil => rfl
  | cons d r ih => rw [List.cons_append, Scan.kept, ih]; rfl

theorem Leads.strip_eq_of_last (h : Leads u rest) (hlast : ∀ c ∈ u.getLast?, Text.isBlank c = false) :
    Text.strip u = u := by
  obtain ⟨c, r, rfl, hc⟩ := h.head
  refine Text.Tidy.strip_eq ⟨h.ne_nil, fun d hd => ?_, hlast⟩
  cases hd
  exact hc

theorem exists_last_token (t : Text) (hc : Text.isBlank c = false) :
    ∃ front u, t ++ [c] = front ++ u ∧ u ≠ [] ∧
      runs (t ++ [c]) = runs front ++ [⟨front.length, u⟩] ∧
      tokens (t ++ [c]) = tokens front ++ [u] := by
  have hkept : (plain.kept (t ++ [c])).getLast? = some true := by
    rw [Scan.kept_concat, List.getLast?_concat, Scan.not_ends_of_not_blank _ hc]
    rfl
  obtain ⟨front, u, hcut, hlead, hruns⟩ := exists_last_run hkept
  have hlast : ∀ d ∈ u.getLast?, Text.isBlank d = false := by
    intro d hd
    have hsame := congrArg List.getLast? hcut
    rw [List.getLast?_concat, List.getLast?_append_of_ne_nil _ hlead.ne_nil, hd] at hsame
    cases hsame
    exact hc
  have hruns : runs (t ++ [c]) = runs front ++ [⟨front.length, u⟩] := by
    simpa [runs] using hruns 0
  refine ⟨front, u, hcut, hlead.ne_nil, hruns, ?_⟩
  rw [tokens, hruns, List.map_append, List.map_singleton, Run.token, hlead.strip_eq_of_last hlast]
  rfl

def Run.Holds (run : Run) (i : Nat) : Prop := run.start ≤ i ∧ i < run.start + run.text.length

instance (run : Run) (i : Nat) : Decidable (run.Holds i) := inferInstanceAs (Decidable (_ ∧ _))

/-- A character belongs to a run just if it does not end the run that would be open before it. -/
theorem exists_holds_iff {i : Nat} (hc : t[i]? = some c) :
    (∃ run ∈ runs t, run.Holds i) ↔ (plain.after (t.take i)).ends c = false := by
  have hkept : (plain.kept t)[i]? = some true ↔ (plain.after (t.take i)).ends c = false := by
    simp [Scan.getElem?_kept, hc]
  rw [← hkept]
  constructor
  · rintro ⟨run, hrun, hlo, hhi⟩
    have hinside := (isMaximal_of_mem_runs hrun).stretch.inside (i - run.start) (by omega)
    rwa [inRun_eq_kept, Nat.add_sub_cancel' hlo] at hinside
  · intro h
    obtain ⟨run, hrun, hlo, hhi⟩ := exists_run_of_kept 0 h
    exact ⟨run, hrun, by omega, by omega⟩

end Query

namespace Document

open Query (Closed Leads Run runs tokens)

variable {line : Text} {column : Nat} {c : Char}

/-! ## The fragment -/

theorem fragmentAt_nil (h : line.take column = []) : fragmentAt line column = [] := by
  simp only [fragmentAt, Cut.before_ofNat, h, List.getLast?_nil]

theorem fragmentAt_of_blank {typed : Text} (h : line.take column = typed ++ [c])
    (hc : Text.isBlank c = true) : fragmentAt line column = [] := by
  simp only [fragmentAt, Cut.before_ofNat, h, List.getLast?_concat, hc, if_true]

theorem exists_fragment {typed : Text} (h : line.take column = typed ++ [c])
    (hc : Text.isBlank c = false) :
    ∃ front, line.take column = front ++ fragmentAt line column ∧ fragmentAt line column ≠ [] ∧
      runs (line.take column) = runs front ++ [⟨front.length, fragmentAt line column⟩] ∧
      tokens (line.take column) = tokens front ++ [fragmentAt line column] := by
  obtain ⟨front, u, hcut, hne, hruns, htokens⟩ := Query.exists_last_token typed hc
  have hfragment : fragmentAt line column = u := by
    simp only [fragmentAt, Cut.before_ofNat, h, List.getLast?_concat, hc, Bool.false_eq_true,
      if_false, htokens, Option.getD_some]
  rw [hfragment, h]
  exact ⟨front, hcut, hne, hruns, htokens⟩

/-- What has been typed is a text and the fragment behind it, and so are its tokens. -/
theorem exists_front_of_fragment (line : Text) (column : Nat) :
    ∃ front, line.take column = front ++ fragmentAt line column ∧
      tokens (line.take column) =
        tokens front ++ if fragmentAt line column = [] then [] else [fragmentAt line column] := by
  by_cases hempty : fragmentAt line column = []
  · exact ⟨line.take column, by simp [hempty], by simp [hempty]⟩
  rcases List.eq_nil_or_concat' (line.take column) with hnil | ⟨typed, c, hconcat⟩
  · exact absurd (fragmentAt_nil hnil) hempty
  cases hc : Text.isBlank c with
  | true => exact absurd (fragmentAt_of_blank hconcat hc) hempty
  | false =>
    obtain ⟨front, hcut, -, -, htokens⟩ := exists_fragment hconcat hc
    exact ⟨front, hcut, by rw [if_neg hempty, htokens]⟩

/-! ## What a completion replaces -/

/-- A completion replaces the fragment that ends at the cursor and nothing else of the line: the span
of each completion cuts the fragment out of the line, and what is in front of it has the tokens that
have been typed but for the fragment. -/
theorem completions_replace_fragment (source : Text) {line : Text} (number : Int) {column : Nat}
    (h : column ≤ line.length) (catalog : Catalog) (limit entityLimit : Int) :
    let fragment := fragmentAt line column
    let start := column - fragment.length
    fragment.length ≤ column ∧ (line.take column).drop start = fragment ∧
      (∀ c ∈ completions source line ⟨number, column⟩ catalog limit entityLimit,
        c.span = ⟨⟨number, start⟩, ⟨number, column⟩⟩) ∧
      tokens (line.take start) ++ (if fragment = [] then [] else [fragment]) =
        tokens (line.take column) := by
  intro fragment start
  obtain ⟨front, hcut, htokens⟩ : ∃ front, line.take column = front ++ fragment ∧
      tokens (line.take column) = tokens front ++ if fragment = [] then [] else [fragment] :=
    exists_front_of_fragment line column
  have hlen := congrArg List.length hcut
  rw [List.length_take, Nat.min_eq_left h, List.length_append] at hlen
  have hstart : start = front.length := by
    show column - fragment.length = front.length
    omega
  have hfront : line.take start = front := by
    have htake := congrArg (List.take front.length) hcut
    rw [List.take_take, Nat.min_eq_left (by omega), List.take_left] at htake
    rw [hstart, htake]
  refine ⟨by omega, ?_, fun c hc => ?_, by rw [hfront, htokens]⟩
  · rw [hstart, hcut, List.drop_left]
  · obtain ⟨rank, hrank, rfl⟩ := List.mem_mapIdx.1 hc
    have hcolumn : (column : Int) - fragment.length = start := by
      show (column : Int) - fragment.length = (column - fragment.length : Nat)
      omega
    rw [← hcolumn]

/-- The second of two tokens, cut in the middle of its quotation. -/
theorem completions_replace_open_quotation :
    let line : Text := "-kind:b +crate:\"a b\""
    19 ≤ line.length ∧ fragmentAt line 19 = "+crate:\"a b" ∧
      tokens (line.take 8) ++ [fragmentAt line 19] = tokens (line.take 19) ∧
      ∀ c ∈ completions line line ⟨0, 19⟩ { crates := [⟨"a b c", "abc"⟩] } 12 3,
        c.span = ⟨⟨0, 8⟩, ⟨0, 19⟩⟩ := by
  intro line
  have hlen : 19 ≤ line.length := by decide
  obtain ⟨-, -, hspan, htokens⟩ := completions_replace_fragment line 0 hlen
    { crates := [⟨"a b c", "abc"⟩] } 12 3
  exact ⟨hlen, by decide, htokens, hspan⟩

/-! ## Whether the cursor is inside a token -/

/-- The fragment tells whether the character before the cursor belongs to a run of what has been
typed, and it begins where the run begins. -/
structure FindsRun (line : Text) (column : Nat) : Prop where
  empty_iff : fragmentAt line column = [] ↔
    ¬ ∃ run ∈ runs (line.take column), run.Holds (column - 1)
  begins : ∀ run ∈ runs (line.take column), run.Holds (column - 1) →
    fragmentAt line column ≠ [] ∧ (line.take column).drop run.start = fragmentAt line column

/-- The fragment tells whether the cursor is inside a token, just if the character before the cursor is
no blank that is quoted or escaped. -/
theorem findsRun_iff {text : Text} {column : Nat} (hpos : 0 < column) (hle : column ≤ text.length) :
    FindsRun text column ↔ ∀ c, text[column - 1]? = some c → Text.isBlank c = true →
      Closed (text.take (column - 1)) := by
  obtain ⟨n, rfl⟩ : ∃ n, column = n + 1 := ⟨column - 1, by omega⟩
  obtain ⟨typed, hget⟩ : ∃ typed, text[n]? = some typed := ⟨_, List.getElem?_eq_getElem hle⟩
  have hconcat : text.take (n + 1) = text.take n ++ [typed] := by
    rw [List.take_add_one, hget, Option.toList_some]
  have hholds : (∃ run ∈ runs (text.take (n + 1)), run.Holds n) ↔
      (Query.Scan.plain.after (text.take n)).ends typed = false := by
    have htake : (text.take (n + 1)).take n = text.take n := by simp [List.take_take]
    rw [← htake]
    exact Query.exists_holds_iff (by rw [List.getElem?_take_of_lt (Nat.lt_succ_self n), hget])
  simp only [Nat.add_sub_cancel, hget, Option.some.injEq, forall_eq']
  cases hblank : Text.isBlank typed with
  | true =>
    have hnil := fragmentAt_of_blank hconcat hblank
    have hclosed : Closed (text.take n) ↔ ¬ ∃ run ∈ runs (text.take (n + 1)), run.Holds n := by
      rw [hholds, Bool.not_eq_false, Query.Scan.ends_iff_of_blank hblank]
      rfl
    rw [hclosed]
    constructor
    · exact fun h _ => h.empty_iff.1 hnil
    · exact fun h => ⟨iff_of_true hnil (h rfl), fun run hrun hn => absurd ⟨run, hrun, hn⟩ (h rfl)⟩
  | false =>
    refine iff_of_true ?_ fun hc => Bool.noConfusion hc
    obtain ⟨front, hcut, hne, hruns, -⟩ := exists_fragment hconcat hblank
    have hlen := congrArg List.length hcut
    have hpos := List.length_pos_of_ne_nil hne
    rw [List.length_take, Nat.min_eq_left hle, List.length_append] at hlen
    have hlast : ⟨front.length, fragmentAt text (n + 1 : Nat)⟩ ∈ runs (text.take (n + 1)) := by
      simp [hruns]
    refine ⟨iff_of_false hne (not_not.2 ⟨_, hlast, ?_⟩), fun run hrun hn => ⟨hne, ?_⟩⟩
    · show front.length ≤ n ∧ n < front.length + (fragmentAt text (n + 1 : Nat)).length
      omega
    · -- Only one run holds the character before the cursor.
      have heq := (Query.isMaximal_of_mem_runs hrun).eq (Query.isMaximal_of_mem_runs hlast) hn
        (by simp only; omega)
      rw [heq, hcut, List.drop_left]

/-- A blank between two tokens, and a letter behind a quoted blank. -/
theorem finds_run_of_open_quotation :
    let line : Text := "-kind:b +crate:\"a b"
    0 < 8 ∧ 8 ≤ line.length ∧ FindsRun line 8 ∧ 0 < 19 ∧ 19 ≤ line.length ∧ FindsRun line 19 := by
  intro line
  have hle : 8 ≤ line.length := by decide
  have hle' : 19 ≤ line.length := by decide
  refine ⟨by decide, hle, (findsRun_iff (by decide) hle).2 fun _ _ _ => by decide, by decide, hle',
    (findsRun_iff (by decide) hle').2 fun c hc hblank => ?_⟩
  have hb : c = 'b' := Option.some.inj (hc.symm.trans rfl)
  rw [hb] at hblank
  cases hblank

/-- Behind a quoted blank, and behind an escaped one, the fragment is empty. -/
theorem quoted_blank_empties_fragment :
    (fragmentAt "+crate:\"my " 11 = [] ∧ runs "+crate:\"my " = [⟨0, "+crate:\"my "⟩] ∧
      ¬ FindsRun "+crate:\"my " 11) ∧
      fragmentAt "a\\ " 3 = [] ∧ runs "a\\ " = [⟨0, "a\\ "⟩] ∧ ¬ FindsRun "a\\ " 3 := by
  refine ⟨⟨by decide, by decide, fun h => ?_⟩, by decide, by decide, fun h => ?_⟩
  · exact h.empty_iff.1 (by decide) ⟨⟨0, "+crate:\"my "⟩, by decide, by decide⟩
  · exact h.empty_iff.1 (by decide) ⟨⟨0, "a\\ "⟩, by decide, by decide⟩

end Document

end FilterBar
