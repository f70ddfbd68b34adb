import Mathlib.Data.List.Forall2
import FilterBar.Proofs.Query.Scanner
import FilterBar.Proofs.Document.Place

/-!
# Where diagnostics stand

The runs of a source tell where its tokens stand, its entries how the tokens read.
`diagnostics_stand_at_refused` brings the two together: the diagnostics of a source stand for its
refused entries one by one, each on just the characters of its token (`StandsAt`), in order and with
a gap between each two.

What is left of a run once its token is trimmed is no part of a span, and a token may go over several
lines if its line feeds are quoted or escaped.
-/

namespace FilterBar.Query

variable {query : Text} {run other : Run}

theorem stop_token_le (h : run ∈ runs query) : run.start + run.token.length ≤ query.length := by
  have hlen := congrArg List.length (slice_token h)
  have hpos := List.length_pos_of_ne_nil (tidy_of_mem_tokens (List.mem_map_of_mem h)).ne_nil
  rw [List.length_take, List.length_drop] at hlen
  omega

theorem length_token_le (h : run ∈ runs query) : run.token.length ≤ run.text.length := by
  obtain ⟨w, hw, -⟩ := exists_token_append h
  rw [hw, List.length_append]
  omega

/-- Between two runs there is a character that belongs to none. -/
theorem IsMaximal.stop_lt (h : IsMaximal query run) (h' : IsMaximal query other)
    (hlt : run.start < other.start) : run.start + run.text.length < other.start := by
  have hpos := List.length_pos_of_ne_nil h.ne_nil
  have hpos' := List.length_pos_of_ne_nil h'.ne_nil
  by_contra hle
  by_cases heq : other.start = run.start + run.text.length
  · -- The last character of the one would stand right in front of the other.
    have hin := h.stretch.inside (run.text.length - 1) (by omega)
    exact h'.stretch.before (run.start + (run.text.length - 1)) (by omega) hin
  · have hsame := h.stretch.unique h'.stretch (i := other.start) (by omega) (by omega)
    omega

theorem pairwise_stop_token (query : Text) :
    (runs query).Pairwise fun run other => run.start + run.token.length < other.start := by
  refine (pairwise_start_runsFrom 0 query).1.imp_of_mem fun {run other} hrun hother hlt => ?_
  have hstop := (isMaximal_of_mem_runs hrun).stop_lt (isMaximal_of_mem_runs hother) hlt
  have hle := length_token_le hrun
  omega

end FilterBar.Query

namespace FilterBar.Document

open Query (Entry Run runs entries)

/-! ## A diagnostic and its entry -/

/-- The diagnostic stands at the entry: read as offsets, its span cuts the token out of the source,
and it tells the problem of this entry. -/
structure StandsAt (source : Text) (d : Diagnostic) (e : Entry) : Prop where
  slice : ∃ first last, offsetOf? source d.span.first = some first ∧
    offsetOf? source d.span.last = some last ∧ (source.take last).drop first = e.raw
  not_empty : d.span.first.Precedes d.span.last
  problem : d.problem = .ofEntry e

def Diagnostic.ofRun (source : Text) (run : Run) : Diagnostic where
  span := ⟨placeOf source run.start, placeOf source (run.start + run.token.length : Nat)⟩
  problem := .ofEntry (.ofToken run.token)

def refusedRuns (source : Text) : List Run :=
  (runs source).filter fun run => !(Entry.ofToken run.token).isValid

theorem diagnostics_eq_map (source : Text) :
    diagnostics source = (refusedRuns source).map (Diagnostic.ofRun source) := by
  rw [diagnostics, refusedRuns, ← List.filterMap_eq_filter, List.map_filterMap]
  refine List.filterMap_congr fun run _ => ?_
  by_cases h : (Entry.ofToken run.token).isValid = true
  · simp [h, Option.guard]
  · simp [h, Option.guard, Diagnostic.ofRun]

theorem refused_entries_eq_map (source : Text) :
    (entries source).filter (fun e => !e.isValid) =
      (refusedRuns source).map fun run => Entry.ofToken run.token := by
  rw [entries, Query.tokens, List.map_map, List.filter_map]
  rfl

variable {source : Text} {run : Run}

theorem mem_runs_of_refused (h : run ∈ refusedRuns source) : run ∈ runs source :=
  (List.mem_filter.1 h).1

theorem standsAt_ofRun (h : run ∈ runs source) :
    StandsAt source (.ofRun source run) (.ofToken run.token) := by
  have hstop := Query.stop_token_le h
  have htoken : run.token ≠ [] := (Query.tidy_of_mem_tokens (List.mem_map_of_mem h)).ne_nil
  have hpos := List.length_pos_of_ne_nil htoken
  refine ⟨⟨_, _, offsetOf?_placeOf (by omega), offsetOf?_placeOf hstop, ?_⟩,
    precedes_placeOf (by omega) hstop, rfl⟩
  rw [List.drop_take, Nat.add_sub_cancel_left]
  exact Query.slice_token h

/-- The diagnostics of a source stand at its refused entries, one at each and in order. No two of
them touch, and as long as lines and columns can be told at all, theirs can. -/
theorem diagnostics_stand_at_refused (source : Text) :
    List.Forall₂ (StandsAt source) (diagnostics source)
        ((entries source).filter fun e => !e.isValid) ∧
      (diagnostics source).Pairwise (fun d d' => d.span.last.Precedes d'.span.first) ∧
      (source.length ≤ Place.greatest → ∀ d ∈ diagnostics source,
        d.span.first.isTellable = true ∧ d.span.last.isTellable = true) := by
  rw [diagnostics_eq_map, refused_entries_eq_map]
  refine ⟨?_, ?_, fun hlen d hd => ?_⟩
  · rw [List.forall₂_map_left_iff, List.forall₂_map_right_iff, List.forall₂_same]
    exact fun run hrun => standsAt_ofRun (mem_runs_of_refused hrun)
  · rw [List.pairwise_map]
    have hpairwise : (refusedRuns source).Pairwise _ :=
      (Query.pairwise_stop_token source).sublist List.filter_sublist
    refine hpairwise.imp_of_mem fun {run other} _ hother hlt => ?_
    have hstop := Query.stop_token_le (mem_runs_of_refused hother)
    exact precedes_placeOf hlt (by omega)
  · obtain ⟨run, hrun, rfl⟩ := List.mem_map.1 hd
    have hstop := Query.stop_token_le (mem_runs_of_refused hrun)
    exact ⟨isTellable_placeOf (by omega) hlen, isTellable_placeOf hstop hlen⟩

/-- A token over two lines whose escaped blank at the end is trimmed, and a template behind a line
feed. -/
example :
    diagnostics "loners:on \"a\nb\"\\ \n  +kind:<kind>" =
      [⟨⟨⟨0, 10⟩, ⟨1, 3⟩⟩, .notAFilter "\"a\nb\"\\"⟩,
        ⟨⟨⟨2, 2⟩, ⟨2, 14⟩⟩, .templateValue "<kind>"⟩] := by
  decide

end FilterBar.Document
