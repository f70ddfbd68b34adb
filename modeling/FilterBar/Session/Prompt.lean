import FilterBar.Session

/-!
# Entering a query line by line

At a prompt, a line commits its tokens. A sign or a key at the end of a line stays behind as the
draft, and the next line goes on from there.

- `enterLine`, `undoLast`: the two edits of a prompt.
- `Completer`: the completions of a word, asked for one by one.
-/

namespace FilterBar.Session

/-- The tokens of a line, the first one joined to a stage that was left behind. A token with a
sign stands for itself. -/
def lineTokens (s : Session) (line : Text) : List Text :=
  let draft := Text.strip s.editor.draft
  match Query.tokens line with
  | [] => []
  | t :: ts =>
    if isStage draft && (Query.Sign.split t).1.isNone then (draft ++ t) :: ts else t :: ts

/-- Commits the tokens of a line but the last one, which is accepted. -/
def enterTokens (s : Session) : List Text → Session
  | [] => s
  | [t] => (s.acceptText t).1
  | t :: u :: ts => enterTokens (s.dispatch (.apply t) true).1 (u :: ts)

def enterLine (s : Session) (line : Text) : Session := s.enterTokens (s.lineTokens line)

/-- Drops the draft, or the last chip if there is no draft. -/
def undoLast (s : Session) : Session :=
  if s.editor.draft ≠ [] then (s.dispatch (.setDraft []) true).1
  else (s.dispatch .backspace true).1

/-! ## Completing a word -/

/-- The completions of a word. A stage that was left behind is put in front of the word and taken
off the completions again. Those that begin with the word are preferred. -/
def completions (s : Session) (word : Text) : List Text :=
  let draft := Text.strip s.editor.draft
  let found := (s.request (draft ++ word) s.editor.chips).suggestions.map Suggestion.inserted
  let rest :=
    if draft.isEmpty then found
    else (found.filter draft.isPrefixOf).map (·.drop draft.length)
  let exact := rest.filter word.isPrefixOf
  if exact.isEmpty then rest else exact

/-- A completer remembers the completions of the last word for which the first one was asked. -/
structure Completer where
  found : List Text := []

/-- The completion with the given number. Number 0 looks the word up. -/
def Completer.ask (c : Completer) (s : Session) (word : Text) (number : Int) :
    Completer × Except Error (Option Text) :=
  let c := if number = 0 then ⟨s.completions word⟩ else c
  if number < c.found.length then
    match Cut.at? number c.found with
    | some t => (c, .ok (some t))
    | none => (c, .error (.outOfRange number))
  else (c, .ok none)

end FilterBar.Session
