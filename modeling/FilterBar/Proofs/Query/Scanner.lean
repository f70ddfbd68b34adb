import FilterBar.Proofs.Query.Pattern

/-!
# Runs by a scan with one flag

One pass over a text tells which of its characters belong to a run: `inRun` keeps a single flag,
whether a quotation is open, and takes a backslash together with the character behind it. A run is
maximal if it is a stretch of such characters that reaches as far as it can (`IsMaximal`), and
`lex_finds_maximal_runs` says that these are the runs of a text, each at its offset, and that
nothing but blanks is left out of the tokens.
-/

namespace FilterBar.Query

open Scan (plain)

variable {s : Scan} {t u rest : Text} {m : List Bool} {a b n k i : Nat}

/-! ## Characters of runs -/

/-- For each character of a text, whether it belongs to a run. -/
def inRun (inQuote : Bool) : Text → List Bool
  | [] => []
  | ['\\'] => [true]
  | '\\' :: _ :: r => true :: true :: inRun inQuote r
  | '"' :: r => true :: inRun (!inQuote) r
  | c :: r => (inQuote || !Text.isBlank c) :: inRun inQuote r

/-- The same with two flags, one character at a time. -/
def Scan.kept (s : Scan) : Text → List Bool
  | [] => []
  | c :: r => (!s.ends c) :: (s.step c).kept r

theorem inRun_eq_kept (inQuote : Bool) (t : Text) :
    inRun inQuote t = (⟨inQuote, false⟩ : Scan).kept t := by
  fun_induction inRun inQuote t with
  | case1 => rfl
  | case2 inQuote => cases inQuote <;> rfl
  | case3 inQuote d r ih =>
    rw [ih]
    cases inQuote <;> rfl
  | case4 inQuote r ih =>
    rw [ih]
    cases inQuote <;> rfl
  | case5 inQuote c r hlast hpair hq ih =>
    -- Neither of the two cases of a backslash applies.
    have hs : c ≠ '\\' := by
      intro hs
      cases r with
      | nil => exact hlast hs rfl
      | cons d r => exact hpair d r hs rfl
    have hstep : (⟨inQuote, false⟩ : Scan).step c = ⟨inQuote, false⟩ := by
      simp only [Scan.step, beq_iff_eq, hs, if_false, Bool.false_eq_true]
      simpa using hq
    rw [ih, Scan.kept, hstep]
    simp [Scan.ends]

theorem Scan.getElem?_kept (s : Scan) (t : Text) (i : Nat) :
    (s.kept t)[i]? = t[i]?.map fun c => !(s.after (t.take i)).ends c := by
  induction t generalizing s i with
  | nil => rfl
  | cons c r ih =>
    cases i with
    | zero => rfl
    | succ i => simp [kept, ih]

theorem Scan.kept_append_of_covers (h : s.Covers u) (rest : Text) :
    s.kept (u ++ rest) = List.replicate u.length true ++ (s.after u).kept rest := by
  induction u generalizing s with
  | nil => rfl
  | cons c r ih =>
    obtain ⟨hc, hr⟩ := Scan.covers_cons.1 h
    simp [kept, hc, ih hr, List.replicate_succ]

theorem kept_cons_of_blank {c : Char} (hc : Text.isBlank c = true) (r : Text) :
    plain.kept (c :: r) = false :: plain.kept r := by
  have hends := (Scan.ends_iff_of_blank hc).2 rfl
  rw [Scan.kept, hends, Scan.step_of_ends hends]
  rfl

theorem Leads.kept (h : Leads u rest) :
    plain.kept (u ++ rest) = List.replicate u.length true ++ plain.kept rest := by
  rw [Scan.kept_append_of_covers h.covers]
  cases rest with
  | nil => rfl
  | cons b r =>
    rw [(Scan.ends_iff_of_blank (h.isBlank b rfl)).1 (h.ended b rfl)]

theorem Leads.kept_rest (h : Leads u rest) : (plain.kept rest)[0]? ≠ some true := by
  cases rest with
  | nil => simp [Scan.kept]
  | cons b r => simp [kept_cons_of_blank (h.isBlank b rfl)]

/-! ## Stretches -/

/-- The marks from `start` on are set for `length` places, and neither the one in front of them nor
the one behind them is. -/
structure IsStretch (marks : List Bool) (start length : Nat) : Prop where
  inside : ∀ i < length, marks[start + i]? = some true
  before : ∀ i, i + 1 = start → marks[i]? ≠ some true
  behind : marks[start + length]? ≠ some true

namespace IsStretch

theorem start_le (h : IsStretch m a n) (h' : IsStretch m b k) (hi : a ≤ i ∧ i < a + n)
    (hi' : b ≤ i ∧ i < b + k) : a ≤ b := by
  by_contra hlt
  have hin := h'.inside (a - 1 - b) (by omega)
  rw [show b + (a - 1 - b) = a - 1 by omega] at hin
  exact h.before (a - 1) (by omega) hin

theorem stop_le (h : IsStretch m a n) (h' : IsStretch m b k) (hi : a ≤ i ∧ i < a + n)
    (hi' : b ≤ i ∧ i < b + k) : b + k ≤ a + n := by
  by_contra hlt
  have hin := h'.inside (a + n - b) (by omega)
  rw [show b + (a + n - b) = a + n by omega] at hin
  exact h.behind hin

theorem unique (h : IsStretch m a n) (h' : IsStretch m b k) (hi : a ≤ i ∧ i < a + n)
    (hi' : b ≤ i ∧ i < b + k) : a = b ∧ n = k := by
  have := h.start_le h' hi hi'
  have := h'.start_le h hi' hi
  have := h.stop_le h' hi hi'
  have := h'.stop_le h hi' hi
  omega

theorem cons_false (h : IsStretch m a n) : IsStretch (false :: m) (a + 1) n where
  inside i hi := by
    rw [Nat.add_right_comm, List.getElem?_cons_succ]
    exact h.inside i hi
  before i hi := by
    cases i with
    | zero => simp
    | succ i =>
      rw [List.getElem?_cons_succ]
      exact h.before i (by omega)
  behind := by
    rw [Nat.add_right_comm, List.getElem?_cons_succ]
    exact h.behind

theorem replicate_append (n : Nat) (hm : m[0]? ≠ some true) :
    IsStretch (List.replicate n true ++ m) 0 n where
  inside i hi := by
    rw [Nat.zero_add, List.getElem?_append_left (by simpa using hi), List.getElem?_replicate, if_pos hi]
  before i hi := by omega
  behind := by
    rw [List.getElem?_append_right (by simp)]
    simpa using hm

theorem behind_replicate (n : Nat) (hm : m[0]? ≠ some true) (hk : 0 < k) (h : IsStretch m a k) :
    IsStretch (List.replicate n true ++ m) (n + a) k := by
  have hget (j : Nat) : (List.replicate n true ++ m)[n + j]? = m[j]? := by
    rw [List.getElem?_append_right (by simp)]
    simp
  have hpos : a ≠ 0 := by
    rintro rfl
    exact hm (h.inside 0 hk)
  refine ⟨fun i hi => ?_, fun i hi => ?_, ?_⟩
  · rw [Nat.add_assoc, hget]
    exact h.inside i hi
  · obtain ⟨j, rfl⟩ : ∃ j, i = n + j := ⟨i - n, by omega⟩
    rw [hget]
    exact h.before j (by omega)
  · rw [Nat.add_assoc, hget]
    exact h.behind

end IsStretch

/-! ## Runs are the stretches -/

theorem isStretch_of_mem_runsFrom {o : Nat} {run : Run} (h : run ∈ (runsFrom o none t).2) :
    ∃ a, run.start = o + a ∧ (t.drop a).take run.text.length = run.text ∧
      IsStretch (plain.kept t) a run.text.length := by
  induction t using run_induction generalizing o with
  | nil => simp [runsFrom] at h
  | blank b r hb ih =>
    rw [runsFrom_cons_of_blank o hb] at h
    obtain ⟨a, hstart, hslice, hstretch⟩ := ih h
    refine ⟨a + 1, by omega, hslice, ?_⟩
    rw [kept_cons_of_blank hb]
    exact hstretch.cons_false
  | run u rest hlead ih =>
    have hgap := hlead.kept_rest
    rw [hlead.runsFrom] at h
    rw [hlead.kept]
    rcases List.mem_cons.1 h with rfl | h
    · exact ⟨0, rfl, by simp, .replicate_append _ hgap⟩
    · obtain ⟨a, hstart, hslice, hstretch⟩ := ih h
      obtain ⟨c, r, htext, -⟩ := head_not_blank_of_mem_runsFrom h
      refine ⟨u.length + a, by omega, ?_, .behind_replicate _ hgap (by simp [htext]) hstretch⟩
      rw [← List.drop_drop, List.drop_left]
      exact hslice

theorem exists_run_of_kept (o : Nat) (h : (plain.kept t)[i]? = some true) :
    ∃ run ∈ (runsFrom o none t).2, run.start ≤ o + i ∧ o + i < run.start + run.text.length := by
  induction t using run_induction generalizing o i with
  | nil => simp [Scan.kept] at h
  | blank b r hb ih =>
    rw [kept_cons_of_blank hb] at h
    rw [runsFrom_cons_of_blank o hb]
    cases i with
    | zero => simp at h
    | succ i =>
      obtain ⟨run, hrun, hlo, hhi⟩ := ih (o + 1) (by simpa using h)
      exact ⟨run, hrun, by omega, by omega⟩
  | run u rest hlead ih =>
    rw [hlead.runsFrom]
    by_cases hi : i < u.length
    · exact ⟨⟨o, u⟩, by simp, by simp, by simpa using hi⟩
    · rw [hlead.kept, List.getElem?_append_right (by simp; omega), List.length_replicate] at h
      obtain ⟨run, hrun, hlo, hhi⟩ := ih (o + u.length) h
      exact ⟨run, by simp [hrun], by omega, by omega⟩

theorem pairwise_start_runsFrom (o : Nat) (t : Text) :
    (runsFrom o none t).2.Pairwise (·.start < ·.start) ∧
      ∀ run ∈ (runsFrom o none t).2, o ≤ run.start := by
  induction t using run_induction generalizing o with
  | nil => simp [runsFrom]
  | blank b r hb ih =>
    rw [runsFrom_cons_of_blank o hb]
    obtain ⟨hsorted, hle⟩ := ih (o + 1)
    exact ⟨hsorted, fun run hrun => by have := hle run hrun; omega⟩
  | run u rest hlead ih =>
    rw [hlead.runsFrom]
    obtain ⟨hsorted, hle⟩ := ih (o + u.length)
    have hpos := List.length_pos_of_ne_nil hlead.ne_nil
    refine ⟨List.pairwise_cons.2 ⟨fun run hrun => ?_, hsorted⟩, fun run hrun => ?_⟩
    · have := hle run hrun
      simp only
      omega
    · rcases List.mem_cons.1 hrun with rfl | hrun
      · exact Nat.le_refl o
      · have := hle run hrun
        omega

/-- A run that stands in a text, of characters that belong to runs, and that reaches as far as such
characters do. -/
structure IsMaximal (query : Text) (run : Run) : Prop where
  ne_nil : run.text ≠ []
  slice : (query.drop run.start).take run.text.length = run.text
  stretch : IsStretch (inRun false query) run.start run.text.length

theorem isMaximal_of_mem_runs {query : Text} {run : Run} (h : run ∈ runs query) :
    IsMaximal query run := by
  obtain ⟨a, hstart, hslice, hstretch⟩ := isStretch_of_mem_runsFrom h
  rw [Nat.zero_add] at hstart
  subst hstart
  exact ⟨run_ne_nil h, hslice, by rwa [inRun_eq_kept]⟩

theorem IsMaximal.eq {query : Text} {run other : Run} (h : IsMaximal query run)
    (h' : IsMaximal query other) (hi : run.start ≤ i ∧ i < run.start + run.text.length)
    (hi' : other.start ≤ i ∧ i < other.start + other.text.length) : run = other := by
  obtain ⟨hstart, hlen⟩ := h.stretch.unique h'.stretch hi hi'
  have htext : run.text = other.text := by
    rw [← h.slice, ← h'.slice, hstart, hlen]
  cases run
  cases other
  simp_all

theorem mem_runs_iff {query : Text} {run : Run} : run ∈ runs query ↔ IsMaximal query run := by
  constructor
  · exact isMaximal_of_mem_runs
  · intro h
    have hpos := List.length_pos_of_ne_nil h.ne_nil
    have hfirst := h.stretch.inside 0 hpos
    rw [inRun_eq_kept] at hfirst
    -- The run that holds the first character is the same.
    obtain ⟨other, hmem, hlo, hhi⟩ := exists_run_of_kept 0 hfirst
    have heq := h.eq (isMaximal_of_mem_runs hmem) (i := run.start) (by omega) (by omega)
    rwa [heq]

/-! ## Tokens in their places -/

/-- A token stands where its run begins, and only blanks of the run are behind it. -/
theorem exists_token_append {query : Text} {run : Run} (h : run ∈ runs query) :
    ∃ w, run.text = run.token ++ w ∧ ∀ c ∈ w, Text.isBlank c = true := by
  obtain ⟨c, r, htext, hc⟩ := head_not_blank h
  rw [Run.token, htext]
  exact Text.exists_strip_append hc r

theorem slice_token {query : Text} {run : Run} (h : run ∈ runs query) :
    (query.drop run.start).take run.token.length = run.token := by
  obtain ⟨w, hw, -⟩ := exists_token_append h
  have hslice := congrArg (List.take run.token.length) (isMaximal_of_mem_runs h).slice
  rw [hw, List.take_take, List.take_left] at hslice
  rwa [Nat.min_eq_left (by simp)] at hslice

theorem isBlank_of_token_le {query : Text} {run : Run} (h : run ∈ runs query) {c : Char}
    (hc : query[i]? = some c) (hlo : run.start + run.token.length ≤ i)
    (hhi : i < run.start + run.text.length) : Text.isBlank c = true := by
  obtain ⟨w, hw, hblank⟩ := exists_token_append h
  have hget : run.text[i - run.start]? = some c := by
    rw [← (isMaximal_of_mem_runs h).slice, List.getElem?_take_of_lt (by omega), List.getElem?_drop,
      Nat.add_sub_cancel' (by omega), hc]
  rw [hw, List.getElem?_append_right (by omega)] at hget
  exact hblank c (List.mem_of_getElem? hget)

theorem isBlank_or_mem_token {query : Text} {c : Char} (hc : query[i]? = some c) :
    Text.isBlank c = true ∨
      ∃ run ∈ runs query, run.start ≤ i ∧ i < run.start + run.token.length := by
  by_cases hkept : (plain.kept query)[i]? = some true
  · obtain ⟨run, hrun, hlo, hhi⟩ := exists_run_of_kept 0 hkept
    rw [Nat.zero_add] at hlo hhi
    by_cases htoken : i < run.start + run.token.length
    · exact .inr ⟨run, hrun, hlo, htoken⟩
    · exact .inl (isBlank_of_token_le hrun hc (by omega) hhi)
  · rw [Scan.getElem?_kept, hc] at hkept
    exact .inl (Scan.isBlank_of_ends (by simpa using hkept))

/-- Trying the pattern of a run from place to place finds just the maximal runs of a scan with one
flag, in order. Their tokens are tidy and stand in the text at the offsets of the runs, and all
characters outside of them are blanks. -/
theorem lex_finds_maximal_runs (query : Text) :
    Pattern.run.lexFrom 0 query = runs query ∧
      (∀ run, run ∈ runs query ↔ IsMaximal query run) ∧
      (runs query).Pairwise (·.start < ·.start) ∧
      (∀ run ∈ runs query, Text.Tidy run.token ∧
        (query.drop run.start).take run.token.length = run.token) ∧
      ∀ i c, query[i]? = some c → Text.isBlank c = true ∨
        ∃ run ∈ runs query, run.start ≤ i ∧ i < run.start + run.token.length := by
  refine ⟨Pattern.lexFrom_run 0 query, fun run => mem_runs_iff, (pairwise_start_runsFrom 0 query).1,
    fun run hrun => ⟨?_, slice_token hrun⟩, fun i c => isBlank_or_mem_token⟩
  exact tidy_of_mem_tokens (List.mem_map_of_mem hrun)

/-- A blank that is escaped at the end of the first run and trimmed from its token, and a quotation
that the second run leaves open. -/
example : runs "a\\  b\\ \"c\\\" d" = [⟨0, "a\\ "⟩, ⟨4, "b\\ \"c\\\" d"⟩] ∧
    tokens "a\\  b\\ \"c\\\" d" = ["a\\", "b\\ \"c\\\" d"] := by
  decide

end FilterBar.Query
