import FilterBar.Proofs.Session.Prompt

/-!
# A prompt is a list with a stage

What a prompt has taken in is a list of tokens and at most one stage behind them, a sign or a key
that waits for its value. `Intake` is that list, and `Intake.step` what the operations of a prompt do
to it. A session at a prompt keeps its draft at the end, so that its chips and its draft are an
intake, and each operation does to them what it does to the list: `prompt_refines_intake`.
-/

namespace FilterBar

open Query (tokens)

/-- The tokens that have been taken in, and the stage that waits for its value. It is empty if none
does. -/
structure Intake where
  tokens : List Text := []
  stage : Text := []
deriving DecidableEq

namespace Intake

variable {q : Intake} {ts : List Text}

/-- The tokens of a line, the first one joined to the stage that waits, unless it has a sign. -/
def continued (stage : Text) : List Text → List Text
  | [] => []
  | t :: ts =>
    if isStage stage && (Query.Sign.split t).1.isNone then (stage ++ t) :: ts else t :: ts

/-- Takes in tokens, if there are any. The last one waits if it is a stage, and the stage that waited
before is gone. -/
def take (q : Intake) (ts : List Text) : Intake :=
  match ts.getLast? with
  | none => q
  | some t => if isStage t then ⟨q.tokens ++ ts.dropLast, t⟩ else ⟨q.tokens ++ ts, []⟩

/-- Drops the stage, or the last token if there is no stage. -/
def undo (q : Intake) : Intake :=
  if q.stage ≠ [] then { q with stage := [] } else { q with tokens := q.tokens.dropLast }

def step (q : Intake) : Session.Call → Intake
  | .op (.enterLine line) => q.take (continued q.stage (Query.tokens line))
  | .op .undoLast => q.undo
  | .op (.act .clear) => {}
  | _ => q

/-- The tokens with the stage behind them. -/
def row (q : Intake) : List Text := if q.stage = [] then q.tokens else q.tokens ++ [q.stage]

theorem ne_nil_of_isStage {t : Text} (h : isStage t = true) : t ≠ [] := by
  rintro rfl
  cases h

theorem take_cons (h : ts ≠ []) (q : Intake) (t : Text) :
    q.take (t :: ts) = (⟨q.tokens ++ [t], []⟩ : Intake).take ts := by
  obtain ⟨v, hv⟩ := Option.ne_none_iff_exists'.1 (mt List.getLast?_eq_none_iff.1 h)
  have hcons : (t :: ts).getLast? = some v := by rw [List.getLast?_cons_of_ne_nil h, hv]
  simp [take, hv, hcons, List.dropLast_cons_of_ne_nil h]

/-- Nothing that is taken in is lost, doubled or put elsewhere. -/
theorem row_take (h : ts ≠ []) (q : Intake) : (q.take ts).row = q.tokens ++ ts := by
  obtain ⟨t, ht⟩ := Option.ne_none_iff_exists'.1 (mt List.getLast?_eq_none_iff.1 h)
  obtain ⟨us, rfl⟩ := List.getLast?_eq_some_iff.1 ht
  simp only [take, ht]
  split
  · next hstage => simp [row, ne_nil_of_isStage hstage]
  · simp [row]

theorem stage_take (h : q.stage = [] ∨ isStage q.stage = true) (ts : List Text) :
    (q.take ts).stage = [] ∨ isStage (q.take ts).stage = true := by
  unfold take
  split
  · exact h
  · split
    · next hstage => exact .inr hstage
    · exact .inl rfl

theorem stage_step (h : q.stage = [] ∨ isStage q.stage = true) (c : Session.Call) :
    (q.step c).stage = [] ∨ isStage (q.step c).stage = true := by
  unfold step
  split
  · exact stage_take h _
  · unfold undo
    split
    · exact .inl rfl
    · next hnil => exact .inl (Decidable.of_not_not hnil)
  · exact .inl rfl
  · exact h

end Intake

namespace Session

variable {s : Session} {P : Text → Prop}

def intake (s : Session) : Intake := ⟨s.editor.chips, s.editor.draft⟩

/-- What can be done at a prompt, where the focus comes with or without notice. -/
def Call.IsPrompt : Call → Prop
  | .op o => o.IsPrompt
  | .quiet .focus => True
  | _ => False

/-- The draft is at the end, and it is empty or a stage. -/
structure AtPrompt (s : Session) : Prop where
  endsIn : s.editor.EndsIn Text.Tidy
  stage : s.intake.stage = [] ∨ isStage s.intake.stage = true

/-! ## Dispatches at a prompt -/

theorem intake_setDraft (h : s.editor.EndsIn P) (draft : Text) :
    (s.dispatch (.setDraft draft) true).1.intake = ⟨s.editor.chips, draft⟩ := by
  rw [intake, editor_dispatch, Editor.reduce_eq_next h.toSound]
  rfl

theorem intake_apply (h : s.editor.EndsIn P) {t : Text} (ht : Text.Tidy t) :
    (s.dispatch (.apply t) true).1.intake = ⟨s.editor.chips ++ [t], []⟩ := by
  have hbefore : s.editor.before = s.editor.chips := by simp [Editor.before, h.cursor_eq]
  have hbehind : s.editor.behind = [] := by simp [Editor.behind, h.cursor_eq]
  rw [intake, editor_dispatch, Editor.reduce_apply_of_tidy h.toSound ht, Editor.commit, hbefore,
    hbehind]

theorem intake_clear (h : s.editor.EndsIn P) : (s.dispatch .clear true).1.intake = {} := by
  rw [intake, editor_dispatch, Editor.reduce_eq_next h.toSound]
  rfl

theorem intake_focus (h : s.editor.EndsIn P) (emit : Bool) :
    (s.dispatch .focus emit).1.intake = s.intake := by
  rw [intake, editor_dispatch, Editor.reduce_eq_next h.toSound]
  rfl

theorem intake_backspace (h : s.editor.EndsIn P) (hd : s.editor.draft = []) :
    (s.dispatch .backspace true).1.intake = ⟨s.editor.chips.dropLast, []⟩ := by
  rw [intake, editor_dispatch, Editor.reduce_eq_next h.toSound]
  simp only [Editor.next, hd, ne_eq, not_true, if_false, h.inserting, h.cursor_eq]
  split
  · next hle =>
    have hnil : s.editor.chips = [] := List.length_eq_zero_iff.1 (by omega)
    simp [hnil, hd]
  · next hpos =>
    have hlast : ((s.editor.chips.length : Int) - 1).toNat = s.editor.chips.length - 1 := by omega
    rw [hlast, List.eraseIdx_length_sub_one]

/-! ## Operations of a prompt as list operations -/

theorem intake_enterTokens (h : s.editor.EndsIn Text.Tidy) {ts : List Text}
    (hts : ∀ t ∈ ts, Text.Tidy t) : (s.enterTokens ts).intake = s.intake.take ts := by
  induction ts generalizing s with
  | nil => rfl
  | cons t ts ih =>
    have ht := hts t (by simp)
    cases ts with
    | nil =>
      simp only [enterTokens, acceptText, Intake.take, List.getLast?_singleton]
      split
      · rw [intake_setDraft h]
        simp [intake]
      · rw [intake_apply h ht]
        rfl
    | cons u us =>
      have happly : (s.dispatch (.apply t) true).1.editor.EndsIn Text.Tidy := by
        rw [editor_dispatch]
        exact h.apply ht ht
      rw [enterTokens, ih happly fun v hv => hts v (by simp [hv]), intake_apply h ht,
        Intake.take_cons (List.cons_ne_nil u us)]
      rfl

theorem lineTokens_eq (h : s.editor.EndsIn Text.Tidy) (line : Text) :
    s.lineTokens line = Intake.continued s.intake.stage (tokens line) := by
  have hstrip : Text.strip s.editor.draft = s.editor.draft := by
    rcases h.draft with hd | hd
    · rw [hd]
      rfl
    · exact hd.strip_eq
  unfold lineTokens
  rw [hstrip]
  rfl

theorem intake_undoLast (h : s.editor.EndsIn P) : s.undoLast.intake = s.intake.undo := by
  have hstage : s.intake.stage = s.editor.draft := rfl
  unfold undoLast Intake.undo
  rw [hstage]
  split
  · exact intake_setDraft h []
  · next hd =>
    have hnil := Decidable.of_not_not hd
    rw [intake_backspace h hnil, hnil]
    rfl

theorem intake_call (h : s.editor.EndsIn Text.Tidy) {c : Call} (hc : c.IsPrompt) :
    (s.call c).intake = s.intake.step c := by
  cases c with
  | quiet a =>
    cases a with
    | focus => exact intake_focus h false
    | _ => exact hc.elim
  | op op =>
    cases op with
    | enterLine line =>
      have hline : ∀ t ∈ s.lineTokens line, Text.Tidy t :=
        of_mem_lineTokens h.draft (fun _ h => h) (fun _ _ h h' => h.append h')
          fun _ => Query.tidy_of_mem_tokens
      rw [call, perform, enterLine, intake_enterTokens h hline, lineTokens_eq h]
      rfl
    | undoLast => exact intake_undoLast h
    | act a =>
      cases a with
      | clear => exact intake_clear h
      | focus => exact intake_focus h true
      | _ => exact hc.elim
    | _ => exact hc.elim

theorem AtPrompt.call (h : s.AtPrompt) {c : Call} (hc : c.IsPrompt) : (s.call c).AtPrompt where
  endsIn := by
    cases c with
    | quiet a =>
      cases a with
      | focus =>
        rw [Session.call, editor_dispatch]
        exact h.endsIn.focus
      | _ => exact hc.elim
    | op op =>
      exact perform_endsIn (fun _ h => h) (fun _ _ h h' => h.append h') h.endsIn hc
        fun _ _ _ => Query.tidy_of_mem_tokens
  stage := by
    rw [intake_call h.endsIn hc]
    exact Intake.stage_step h.stage c

/-! ## Runs -/

theorem AtPrompt.calls (h : s.AtPrompt) {cs : List Call} (hcs : ∀ c ∈ cs, c.IsPrompt) :
    (s.calls cs).AtPrompt ∧ (s.calls cs).intake = cs.foldl Intake.step s.intake := by
  induction cs generalizing s with
  | nil => exact ⟨h, rfl⟩
  | cons c cs ih =>
    have hc := hcs c (by simp)
    obtain ⟨hprompt, hintake⟩ := ih (h.call hc) fun d hd => hcs d (by simp [hd])
    exact ⟨hprompt, by rw [calls_cons, hintake, intake_call h.endsIn hc, List.foldl_cons]⟩

/-- At a prompt no chip is under edit, the cursor is at the end, and the draft is empty or a stage. The
chips and the draft are those of the list that the operations make from the tokens of the first text,
and one more operation does to them what it does to the list. So the tokens of a line come behind the
chips, each once and in order, the first one perhaps with the stage in front of it. -/
theorem prompt_refines_intake (query : Text) (catalog : Catalog) (limit entityLimit : Int)
    (echoes : Bool) (cs : List Call) (hcs : ∀ c ∈ cs, c.IsPrompt) :
    let s := { start query catalog limit entityLimit with echoes := echoes }.calls cs
    (s.editor.editing = none ∧ s.editor.cursor = s.editor.chips.length ∧
        (s.editor.draft = [] ∨ isStage s.editor.draft = true)) ∧
      s.intake = cs.foldl Intake.step ⟨tokens query, []⟩ ∧
      (∀ c : Call, c.IsPrompt → (s.call c).intake = s.intake.step c) ∧
      ∀ line, tokens line ≠ [] → (s.call (.op (.enterLine line))).intake.row =
        s.editor.chips ++ Intake.continued s.editor.draft (tokens line) := by
  intro s
  have hstart : AtPrompt { start query catalog limit entityLimit with echoes := echoes } :=
    ⟨Editor.ofText_endsIn (fun _ => Query.tidy_of_mem_tokens) false, .inl rfl⟩
  obtain ⟨⟨hend, hstage⟩, hintake⟩ := hstart.calls hcs
  refine ⟨⟨hend.inserting, hend.cursor_eq, hstage⟩, hintake, fun c hc => intake_call hend hc, ?_⟩
  intro line hline
  have hcontinued : Intake.continued s.editor.draft (tokens line) ≠ [] := by
    obtain ⟨t, ts, hts⟩ := List.exists_cons_of_ne_nil hline
    rw [hts, Intake.continued]
    split <;> simp
  rw [intake_call hend (c := .op (.enterLine line)) trivial]
  exact Intake.row_take hcontinued s.intake

/-- A key waits for its value, a second one is dropped for a token with a sign, and the last chip is
taken back. -/
theorem prompt_takes_in_three_lines :
    let cs : List Call := [.quiet .focus, .op (.enterLine "loners:off +crate:"),
      .op (.enterLine "\"my crate\" -kind:"), .op (.enterLine "+node:1 colorBy:"), .op .undoLast,
      .op .undoLast, .op (.enterLine "focus:")]
    let s := (start "x" {} 12 3).calls cs
    (∀ c ∈ cs, c.IsPrompt) ∧
      s.intake = ⟨["x", "loners:off", "+crate:\"my crate\""], "focus:"⟩ := by
  intro cs s
  have hcs : ∀ c ∈ cs, c.IsPrompt := by simp [cs, Call.IsPrompt, Op.IsPrompt]
  exact ⟨hcs, (prompt_refines_intake "x" {} 12 3 false cs hcs).2.1.trans (by decide)⟩

end Session

end FilterBar
