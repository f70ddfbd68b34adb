import FilterBar.Proofs.Session.Run

/-!
# Session and parent agree

A session is in step with its parent if it shows the text that the parent holds, or that text in
normal form. Dispatches keep it in step. So does a text from the parent, with one exception: the
text last told is taken for an echo for as long as none has come, also when the editor has been
rebuilt from another text since. `Overtaken` is that case, and `inStep_throughout_iff` says that a
run stays in step just if it does not occur.
-/

namespace FilterBar.Session

variable {s : Session}

/-- The session shows what the parent holds, or the normal form of that. -/
def InStep (s : Session) : Prop := s.text = s.held ∨ s.text = Editor.normal s.held

/-- The text passes for an echo, but the session shows another one by now. -/
def Overtaken (s : Session) (query : Text) : Prop :=
  s.pending = some query ∧ s.text ≠ query ∧ s.text ≠ Editor.normal query

instance (s : Session) : Decidable s.InStep := inferInstanceAs (Decidable (_ ∨ _))

instance (s : Session) (query : Text) : Decidable (s.Overtaken query) :=
  inferInstanceAs (Decidable (_ ∧ _ ∧ _))

/-! ## Steps -/

theorem inStep_dispatch_emit (s : Session) (a : Editor.Action) (h : s.InStep) :
    (s.dispatch a true).1.InStep := by
  rcases dispatch_emit s a with ⟨hs, hsame | htext⟩ | ⟨hs, -⟩
  · have : s.showing a = s := by rw [showing, hsame]
    rw [hs, this]
    exact h
  · rw [hs]
    exact .inl htext
  · rw [hs, tell_eq]
    exact .inl rfl

theorem inStep_dispatch_panel (s : Session) (a : Editor.Action) (ha : a.IsPanel) (h : s.InStep) :
    (s.dispatch a false).1.InStep := by
  have htext : (s.showing a).text = s.text := Editor.text_reduce_of_isPanel s.editor ha
  rw [dispatch_quiet]
  unfold InStep
  rw [htext]
  exact h

theorem Moves.inStep {t : Session} (h : Moves s t) (hs : s.InStep) : t.InStep :=
  h.keeps inStep_dispatch_emit inStep_dispatch_panel hs

/-- A text from the parent is shown, or its normal form, unless it is an overtaken echo. -/
theorem inStep_receive_iff (s : Session) (query : Text) :
    (s.receive query).1.InStep ↔ ¬ s.Overtaken query := by
  unfold receive
  split
  · next hp =>
    -- Taken for an echo: the editor stays, and the parent holds the text.
    simp only [InStep, Overtaken, hp, true_and, text]
    tauto
  · next hp =>
    have hno : ¬ s.Overtaken query := fun h => hp h.1
    simp only
    split
    · next hq => exact iff_of_true (.inl hq.symm) hno
    · exact iff_of_true (.inr (Editor.text_reduce_sync _ query)) hno

theorem perform_inStep_iff (hs : s.InStep) (op : Op) :
    (s.perform op).InStep ↔ ∀ query, op = .receive query → ¬ s.Overtaken query := by
  cases op with
  | receive query => simp [perform, inStep_receive_iff]
  | _ => exact iff_of_true ((perform_moves s (by simp)).inStep hs) (by simp)

/-! ## Runs -/

theorem run_inStep_iff (hs : s.InStep) (ops : List Op) :
    (∀ pre, pre <+: ops → (s.run pre).InStep) ↔
      ∀ pre op, pre ++ [op] <+: ops → ∀ late, op = .receive late → ¬ (s.run pre).Overtaken late := by
  induction ops generalizing s with
  | nil => simp [run, hs]
  | cons op ops ih =>
    rw [forall_prefix_cons, forall_next_cons]
    simp only [run_cons]
    by_cases hop : (s.perform op).InStep
    · rw [ih hop]
      exact and_congr_left' (iff_of_true hs ((perform_inStep_iff hs op).1 hop))
    · constructor
      · intro h
        exact absurd (h.2 [] List.nil_prefix) hop
      · intro h
        exact absurd ((perform_inStep_iff hs op).2 h.1) hop

/-- A run from any text stays in step with the parent from beginning to end just if the parent never
hands over a text that passes for an echo while the editor shows another one. -/
theorem inStep_throughout_iff (query : Text) (catalog : Catalog) (limit entityLimit : Int)
    (echoes : Bool) (ops : List Op) :
    let s := { start query catalog limit entityLimit with echoes := echoes }
    (∀ pre, pre <+: ops → (s.run pre).InStep) ↔
      ∀ pre late, pre ++ [.receive late] <+: ops → ¬ (s.run pre).Overtaken late := by
  intro s
  rw [run_inStep_iff (s := s) (.inr rfl) ops]
  constructor
  · exact fun h pre late hpre => h pre _ hpre late rfl
  · rintro h pre _ hpre late rfl
    exact h pre late hpre

/-- The parent goes over to another text and back. It is not followed back. -/
theorem not_inStep_after_return :
    ¬ ((start [] {} 12 3).run
      [.act (.setDraft "a"), .receive "b", .receive "a"]).InStep := by
  decide

end FilterBar.Session
