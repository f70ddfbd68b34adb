import Mathlib.Data.List.Perm.Basic
import FilterBar.Proofs.Document.Diagnostic
import FilterBar.Proofs.Document.Fragment
import FilterBar.Proofs.Suggestion.Repetition

/-!
# The token under the cursor and the others

Completions leave out what the query has already, and the token that is being completed is not to
count. It is looked for by its text: the fragment before the cursor is taken out of the tokens, once.
That is the right token where the cursor is at its end. In the middle of a token the fragment is only
a part of it (`InToken.fragmentAt_eq`), so that the token stays among those that hold candidates back,
and if the query has the fragment as another token, it is this one that is taken out.
`completions_skip_others_iff` says when that shows.
-/

namespace FilterBar

namespace Query

variable {t : Text} {run : Run} {n : Nat}

/-! ## A run that is cut -/

theorem Scan.kept_take (s : Scan) (t : Text) (n : Nat) : s.kept (t.take n) = (s.kept t).take n := by
  induction t generalizing s n with
  | nil => simp [kept]
  | cons c r ih =>
    cases n with
    | zero => rfl
    | succ n => simp [kept, ih]

theorem IsMaximal.take (h : IsMaximal t run) (hpos : 0 < n) (hn : n ≤ run.text.length) :
    IsMaximal (t.take (run.start + n)) ⟨run.start, run.text.take n⟩ := by
  have hlen : (run.text.take n).length = n := List.length_take_of_le hn
  have hmarks : inRun false (t.take (run.start + n)) = (inRun false t).take (run.start + n) := by
    simp only [inRun_eq_kept, Scan.kept_take]
  have hne : run.text.take n ≠ [] := List.ne_nil_of_length_pos (by omega)
  refine ⟨hne, ?_, ?_⟩
  · show ((t.take (run.start + n)).drop run.start).take (run.text.take n).length = run.text.take n
    rw [hlen, List.drop_take, Nat.add_sub_cancel_left, List.take_take, Nat.min_self]
    conv_rhs => rw [← h.slice, List.take_take, Nat.min_eq_left hn]
  · rw [hlen, hmarks]
    refine ⟨fun i hi => ?_, fun i hi => ?_, ?_⟩
    · rw [List.getElem?_take_of_lt (Nat.add_lt_add_left hi _)]
      exact h.stretch.inside i (by omega)
    · have hstart : i + 1 = run.start := hi
      rw [List.getElem?_take_of_lt (by omega)]
      exact h.stretch.before i hi
    · rw [List.getElem?_take_eq_none (Nat.le_refl _)]
      simp

end Query

/-! ## What holds candidates back -/

namespace Suggestion

open Query (canonical)

variable {existing existing' ts : List Text} {cs : List Suggestion} {fragment t u : Text} {k : Nat}

theorem offer_tokens_eq_iff :
    (offer existing cs).map token = (offer existing' cs).map token ↔
      ∀ c ∈ cs, IsNew existing c.token ↔ IsNew existing' c.token := by
  rw [offer_tokens, offer_tokens]
  constructor
  · intro h c hc
    have hmem : c.token ∈ cs.map token := List.mem_map_of_mem hc
    have hsame : c.token ∈ newTokens existing (cs.map token) ↔
        c.token ∈ newTokens existing' (cs.map token) := by rw [h]
    rwa [mem_newTokens, mem_newTokens, and_iff_right hmem, and_iff_right hmem] at hsame
  · intro h
    rw [newTokens, newTokens]
    refine congrArg List.eraseDups (List.filter_congr fun t ht => ?_)
    obtain ⟨c, hc, rfl⟩ := List.mem_map.1 ht
    exact decide_eq_decide.2 (h c hc)

theorem isNew_congr (h : existing.Perm existing') : IsNew existing u ↔ IsNew existing' u := by
  rw [IsNew, IsNew, (h.map canonical).mem_iff]

theorem isNew_cons : IsNew (t :: ts) u ↔ canonical u ≠ canonical t ∧ IsNew ts u := by
  rw [IsNew, IsNew, List.map_cons, List.mem_cons, not_or]

theorem IsNew.ne (h : IsNew ts u) (ht : t ∈ ts) : canonical u ≠ canonical t :=
  fun heq => h (heq ▸ List.mem_map_of_mem ht)

theorem cons_eraseIdx_perm (hk : ts[k]? = some t) : ts.Perm (t :: ts.eraseIdx k) := by
  obtain ⟨hlt, rfl⟩ := List.getElem?_eq_some_iff.1 hk
  exact (List.getElem_cons_eraseIdx_perm hlt).symm

/-- What is new does not depend on whether a text is taken out or another token, by its place, just if
neither of them holds anything back alone. -/
theorem isNew_erase_iff (hk : ts[k]? = some t) (hne : fragment ≠ t) :
    (IsNew (ts.erase fragment) u ↔ IsNew (ts.eraseIdx k) u) ↔
      (canonical u = canonical t → ¬ IsNew (ts.eraseIdx k) u) ∧
        (fragment ∈ ts.eraseIdx k → canonical u = canonical fragment →
          ¬ IsNew (ts.erase fragment) u) := by
  have hperm := cons_eraseIdx_perm hk
  have hidx : IsNew ts u ↔ canonical u ≠ canonical t ∧ IsNew (ts.eraseIdx k) u :=
    (isNew_congr hperm).trans isNew_cons
  by_cases hmem : fragment ∈ ts
  · have herase : IsNew ts u ↔ canonical u ≠ canonical fragment ∧ IsNew (ts.erase fragment) u :=
      (isNew_congr (List.perm_cons_erase hmem)).trans isNew_cons
    have ht : t ∈ ts.erase fragment :=
      (List.mem_erase_of_ne hne.symm).2 (List.mem_of_getElem? hk)
    have hfragment : fragment ∈ ts.eraseIdx k :=
      (List.mem_cons.1 (hperm.mem_iff.1 hmem)).resolve_left hne
    have hnet : IsNew (ts.erase fragment) u → canonical u ≠ canonical t := fun h => h.ne ht
    have hnef : IsNew (ts.eraseIdx k) u → canonical u ≠ canonical fragment :=
      fun h => h.ne hfragment
    constructor
    · intro h
      exact ⟨fun heq hidx => hnet (h.2 hidx) heq, fun _ heq herase => hnef (h.1 herase) heq⟩
    · rintro ⟨hown, hother⟩
      exact ⟨fun h => (hidx.1 (herase.2 ⟨fun heq => hother hfragment heq h, h⟩)).2,
        fun h => (herase.1 (hidx.2 ⟨fun heq => hown heq h, h⟩)).2⟩
  · have hfragment : fragment ∉ ts.eraseIdx k := fun h => hmem (List.mem_of_mem_eraseIdx h)
    rw [List.erase_of_not_mem hmem, hidx]
    constructor
    · exact fun h => ⟨fun heq hidx => (h.2 hidx).1 heq, fun hin => absurd hin hfragment⟩
    · exact fun h => ⟨And.right, fun hidx => ⟨fun heq => h.1 heq hidx, hidx⟩⟩

end Suggestion

namespace Document

open Query (Run canonical runs tokens)
open Suggestion

variable {source line : Text} {column k : Nat} {run : Run}

/-- The cursor is behind a character of the token at a place that is no blank. The source has no other
line in front of the cursor. -/
structure InToken (source line : Text) (column k : Nat) (run : Run) : Prop where
  getElem?_eq : (runs source)[k]? = some run
  start_lt : run.start < column
  le_stop : column ≤ run.start + run.token.length
  not_blank : ∀ c ∈ source[column - 1]?, Text.isBlank c = false
  take_eq : line.take column = source.take column

/-- Inside of a token the fragment is what has been typed of it. -/
theorem InToken.fragmentAt_eq (h : InToken source line column k run) :
    fragmentAt line column = run.token.take (column - run.start) := by
  obtain ⟨n, rfl⟩ : ∃ n, column = run.start + (n + 1) :=
    Nat.exists_eq_add_of_lt h.start_lt
  have hrun : run ∈ runs source := List.mem_of_getElem? h.getElem?_eq
  have hn : n + 1 ≤ run.token.length := Nat.le_of_add_le_add_left h.le_stop
  have hstop := Query.stop_token_le hrun
  have hle := Query.length_token_le hrun
  obtain ⟨c, hget⟩ : ∃ c, source[run.start + n]? = some c :=
    ⟨_, List.getElem?_eq_getElem (by omega)⟩
  have htyped : line.take (run.start + (n + 1)) = source.take (run.start + n) ++ [c] := by
    rw [h.take_eq, ← Nat.add_assoc, List.take_add_one, hget, Option.toList_some]
  obtain ⟨front, hcut, hne, hruns, -⟩ := exists_fragment htyped (h.not_blank c hget)
  rw [h.take_eq] at hruns hcut
  have hlen := congrArg List.length hcut
  have hpos := List.length_pos_of_ne_nil hne
  rw [List.length_take, List.length_append, Nat.min_eq_left (by omega)] at hlen
  have hlast : Query.IsMaximal (source.take (run.start + (n + 1)))
      ⟨front.length, fragmentAt line (run.start + (n + 1) : Nat)⟩ :=
    Query.isMaximal_of_mem_runs (by simp [hruns])
  have hhere := (Query.isMaximal_of_mem_runs hrun).take (Nat.succ_pos n) (by omega)
  -- Both are the run that holds the character before the cursor.
  have heq := hhere.eq hlast (i := run.start + n) (by simp; omega) (by simp only; omega)
  obtain ⟨w, hw, -⟩ := Query.exists_token_append hrun
  have htext : fragmentAt line (run.start + (n + 1) : Nat) = run.text.take (n + 1) :=
    (congrArg Run.text heq).symm
  rw [htext, hw, List.take_append_of_le_length hn, Nat.add_sub_cancel_left]

/-! ## The other tokens -/

def labels (cs : List Completion) : List Text := cs.map fun c => c.suggestion.token

theorem labels_completions (source line : Text) (cursor : Place) (catalog : Catalog)
    (limit entityLimit : Int) :
    labels (completions source line cursor catalog limit entityLimit) =
      (Request.suggestions ⟨fragmentAt line cursor.column,
        (tokens source).erase (fragmentAt line cursor.column), catalog, limit, entityLimit⟩).map
          Suggestion.token := by
  refine List.ext_getElem? fun i => ?_
  simp only [labels, completions, List.getElem?_map, List.getElem?_mapIdx, Option.map_map]
  rfl

/-- The completions are what is suggested beside the other tokens just if the cursor is at the end of
the token, or two things are so for each candidate: it is not the token alone that holds it back, and
if another token is the same as the fragment, it is not this one alone that should. -/
theorem completions_skip_others_iff (h : InToken source line column k run) (number : Int)
    (catalog : Catalog) (limit entityLimit : Int) :
    let fragment := fragmentAt line column
    let others := (tokens source).eraseIdx k
    let r : Request := ⟨fragment, others, catalog, limit, entityLimit⟩
    labels (completions source line ⟨number, column⟩ catalog limit entityLimit) =
        r.suggestions.map Suggestion.token ↔
      column = run.start + run.token.length ∨ ∀ c ∈ r.candidates,
        (canonical c.token = canonical run.token → ¬ IsNew others c.token) ∧
          (fragment ∈ others → canonical c.token = canonical fragment →
            ¬ IsNew ((tokens source).erase fragment) c.token) := by
  intro fragment others r
  have hget : (tokens source)[k]? = some run.token := by
    rw [tokens, List.getElem?_map, h.getElem?_eq, Option.map_some]
  have hlabels : labels (completions source line ⟨number, column⟩ catalog limit entityLimit) =
      (offer ((tokens source).erase fragment) r.candidates).map Suggestion.token :=
    labels_completions source line ⟨number, column⟩ catalog limit entityLimit
  rw [hlabels, Request.suggestions, offer_tokens_eq_iff]
  have hfragment : fragment = run.token.take (column - run.start) := h.fragmentAt_eq
  have hlen : fragment.length = column - run.start := by
    have := h.le_stop
    rw [hfragment, List.length_take]
    omega
  by_cases hend : column = run.start + run.token.length
  · have heq : fragment = run.token := by
      rw [hfragment, List.take_of_length_le (by omega)]
    have hperm : ((tokens source).erase fragment).Perm others := by
      have hmem : fragment ∈ tokens source := heq ▸ List.mem_of_getElem? hget
      have hidx : (tokens source).Perm (fragment :: others) := heq ▸ cons_eraseIdx_perm hget
      exact ((List.perm_cons_erase hmem).symm.trans hidx).cons_inv
    exact iff_of_true (fun c _ => isNew_congr hperm) (.inl hend)
  · have hne : fragment ≠ run.token := fun heq => by
      have := h.start_lt
      rw [heq] at hlen
      omega
    rw [or_iff_right hend]
    exact forall₂_congr fun c _ => isNew_erase_iff hget hne

/-- In the middle of a token that the query has twice. -/
theorem completions_skip_repeated_token :
    let line : Text := "+crate:ab -kind:b +crate:ab"
    let catalog : Catalog := { crates := [⟨"ab", "ab"⟩, ⟨"a", "a"⟩] }
    let r : Request := ⟨fragmentAt line 26, ["+crate:ab", "-kind:b"], catalog, 12, 3⟩
    InToken line line 26 2 ⟨18, "+crate:ab"⟩ ∧ r.existing = (tokens line).eraseIdx 2 ∧
      r.suggestions.map Suggestion.token = ["+crate:a"] ∧
      labels (completions line line ⟨0, 26⟩ catalog 12 3) = r.suggestions.map Suggestion.token := by
  intro line catalog r
  have hin : InToken line line 26 2 ⟨18, "+crate:ab"⟩ :=
    ⟨by decide, by decide, by decide, fun c hc => by cases hc; rfl, rfl⟩
  exact ⟨hin, by decide, by decide,
    (completions_skip_others_iff hin 0 catalog 12 3).2 (.inr (by decide))⟩

/-- In the middle of a token it holds itself back, and the fragment is let through although another
token is the same. -/
theorem own_token_is_held_back :
    let catalog : Catalog := { crates := [⟨"a", "a"⟩, ⟨"ab", "ab"⟩] }
    (InToken "+crate:ab" "+crate:ab" 8 0 ⟨0, "+crate:ab"⟩ ∧
      labels (completions "+crate:ab" "+crate:ab" ⟨0, 8⟩ catalog 12 3) = ["+crate:a"] ∧
      (Request.suggestions ⟨fragmentAt "+crate:ab" 8, (tokens "+crate:ab").eraseIdx 0, catalog, 12, 3⟩).map
        Suggestion.token = ["+crate:a", "+crate:ab"]) ∧
    let line : Text := "+crate:a +crate:ab"
    InToken line line 17 1 ⟨9, "+crate:ab"⟩ ∧
      labels (completions line line ⟨0, 17⟩ catalog 12 3) = ["+crate:a"] ∧
      (Request.suggestions ⟨fragmentAt line 17, (tokens line).eraseIdx 1, catalog, 12, 3⟩).map
        Suggestion.token = ["+crate:ab"] := by
  intro catalog
  have hsingle : InToken "+crate:ab" "+crate:ab" 8 0 ⟨0, "+crate:ab"⟩ :=
    ⟨by decide, by decide, by decide, fun c hc => by cases hc; rfl, rfl⟩
  have hsecond : InToken "+crate:a +crate:ab" "+crate:a +crate:ab" 17 1 ⟨9, "+crate:ab"⟩ :=
    ⟨by decide, by decide, by decide, fun c hc => by cases hc; rfl, rfl⟩
  exact ⟨⟨hsingle, by decide, by decide⟩, hsecond, by decide, by decide⟩

end Document

end FilterBar
