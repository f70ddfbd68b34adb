import FilterBar.Text

/-!
# Tokens of a query

A query is cut into runs by one left-to-right scan with two flags. A backslash escapes the
character after it, an unescaped double quote opens or closes a quotation, and a blank that is
neither escaped nor quoted ends the run. Every text has tokens: a quotation or an escape that is
left open reaches to the end.

- `Scan`: the two flags, with one transition per character.
- `runs`: the maximal runs of a text with their offsets. `run_ne_nil` says that no run is empty,
  `head_not_blank` that none begins with a blank.
- `tokens`: the runs without blanks at their ends. An escaped blank at the end of a run is
  trimmed like any other.
-/

namespace FilterBar.Query

/-! ## The scan -/

/-- Where a scan stands: inside a quotation, and right after an unpaired backslash. -/
structure Scan where
  quoted : Bool := false
  escaped : Bool := false
deriving DecidableEq

namespace Scan

/-- Outside quotations and after no backslash: where a run starts and where a blank ends it. -/
def plain : Scan := {}

def step (s : Scan) (c : Char) : Scan :=
  if s.escaped then { s with escaped := false }
  else if c == '\\' then { s with escaped := true }
  else if c == '"' then { s with quoted := !s.quoted }
  else s

/-- Whether `c` ends the run that is being scanned. -/
def ends (s : Scan) (c : Char) : Bool := !s.quoted && !s.escaped && Text.isBlank c

def after (s : Scan) (t : Text) : Scan := t.foldl step s

@[simp] theorem after_nil (s : Scan) : s.after [] = s := rfl

@[simp] theorem after_cons (s : Scan) (c : Char) (t : Text) :
    s.after (c :: t) = (s.step c).after t := rfl

theorem after_append (s : Scan) (t u : Text) : s.after (t ++ u) = (s.after t).after u :=
  List.foldl_append

end Scan

/-! ## Runs -/

/-- A maximal run of a query and the offset of its first character. -/
structure Run where
  start : Nat
  text : Text
deriving DecidableEq

/-- The rest of the open run, if a scan is under way, and the runs after it. The text begins at
the given offset. -/
def runsFrom (offset : Nat) : Option Scan → Text → Text × List Run
  | _, [] => ([], [])
  | none, c :: r =>
    if Text.isBlank c then ([], (runsFrom (offset + 1) none r).2)
    else
      let (rest, later) := runsFrom (offset + 1) (some (Scan.plain.step c)) r
      ([], ⟨offset, c :: rest⟩ :: later)
  | some s, c :: r =>
    if s.ends c then ([], (runsFrom (offset + 1) none r).2)
    else
      let (rest, later) := runsFrom (offset + 1) (some (s.step c)) r
      (c :: rest, later)

def runs (query : Text) : List Run := (runsFrom 0 none query).2

theorem head_not_blank_of_mem_runsFrom {offset : Nat} {s : Option Scan} {t : Text} {run : Run}
    (h : run ∈ (runsFrom offset s t).2) :
    ∃ c r, run.text = c :: r ∧ Text.isBlank c = false := by
  induction t generalizing offset s with
  | nil => cases s <;> simp [runsFrom] at h
  | cons c r ih =>
    cases s with
    | none =>
      by_cases hb : Text.isBlank c = true
      · simp only [runsFrom, hb, if_true] at h
        exact ih h
      · simp only [runsFrom, hb, if_false, Bool.false_eq_true] at h
        rcases List.mem_cons.1 h with rfl | h
        · exact ⟨c, _, rfl, by simpa using hb⟩
        · exact ih h
    | some s =>
      by_cases he : s.ends c = true
      · simp only [runsFrom, he, if_true] at h
        exact ih h
      · simp only [runsFrom, he, if_false, Bool.false_eq_true] at h
        exact ih h

theorem head_not_blank {query : Text} {run : Run} (h : run ∈ runs query) :
    ∃ c r, run.text = c :: r ∧ Text.isBlank c = false :=
  head_not_blank_of_mem_runsFrom h

theorem run_ne_nil {query : Text} {run : Run} (h : run ∈ runs query) : run.text ≠ [] := by
  obtain ⟨c, r, hr, -⟩ := head_not_blank h
  simp [hr]

/-! ## Tokens -/

def Run.token (run : Run) : Text := Text.strip run.text

def tokens (query : Text) : List Text := (runs query).map Run.token

theorem tokens_nil : tokens [] = [] := rfl

/-- Tokens written as a query, with a blank between each two. -/
def ofTokens (ts : List Text) : Text := Text.joinWith [' '] ts

/-! ## Editing by token -/

/-- The query with one more token at its end, or as it is if it has that token already. -/
def append (query token : Text) : Text :=
  let ts := tokens query
  if token ∈ ts then query else if ts.isEmpty then token else ofTokens (ts ++ [token])

/-- The query without the token at a place, or as it is if there is no such token. -/
def removeAt (query : Text) (place : Int) : Text :=
  let ts := tokens query
  if 0 ≤ place ∧ place < ts.length then ofTokens (ts.eraseIdx place.toNat) else query

end FilterBar.Query
