import FilterBar.Text

/-!
# Quoted values

A value with a blank or a double quote in it is written between double quotes, with a backslash
before each double quote and each backslash. `unescape_escape` says that reading the backslashes
back gives the value.

A line feed at the very end does not count as a blank here: a value that needs no quotes but for it
is written as it is, and loses the line feed when it is read.
-/

namespace FilterBar.Query

def dropFinalLineFeed (t : Text) : Text := if t.getLast? = some '\n' then t.dropLast else t

/-- Whether a value is written without quotes. One line feed at its end does not count. -/
def isBare (value : Text) : Bool :=
  let t := dropFinalLineFeed value
  !t.isEmpty && t.all fun c => !Text.isBlank c && c != '"'

/-- A backslash before each double quote and each backslash. -/
def escape : Text → Text
  | [] => []
  | c :: r => if c = '\\' ∨ c = '"' then '\\' :: c :: escape r else c :: escape r

/-- Drops each backslash that has a character after it and keeps that character. -/
def unescape : Text → Text
  | [] => []
  | [c] => [c]
  | c :: d :: r => if c = '\\' then d :: unescape r else c :: unescape (d :: r)

def enquote (value : Text) : Text := '"' :: escape value ++ ['"']

def quote (value : Text) : Text := if isBare value then value else enquote value

/-- The value that is written, with or without double quotes around it. -/
def unquote (written : Text) : Text :=
  match Text.strip written with
  | '"' :: r => if r.getLast? = some '"' then unescape r.dropLast else '"' :: r
  | t => t

theorem unescape_cons {c : Char} (h : c ≠ '\\') (r : Text) :
    unescape (c :: r) = c :: unescape r := by
  cases r <;> simp [unescape, h]

theorem unescape_escape (value : Text) : unescape (escape value) = value := by
  induction value with
  | nil => rfl
  | cons c r ih =>
    by_cases h : c = '\\' ∨ c = '"'
    · simp [escape, h, unescape, ih]
    · simp only [escape, h, if_false]
      rw [unescape_cons (fun hc => h (.inl hc)), ih]

end FilterBar.Query
