import FilterBar.Proofs.Session.Run
import FilterBar.Proofs.Query.Join

/-!
# Chips and query at a prompt

At a prompt chips come and go at the end only, and the draft is empty or a stage. The query is thus
the chips followed by the draft. `prompt_reads_back_iff` says when reading it gives them back.

`EndsIn P` is the state of an editor at a prompt: its draft is at the end, and what it is made of has
the property `P`. Every operation of a prompt keeps it if `P` is a property of the tokens that are
entered and passes to a stage with a token behind it.
-/

namespace FilterBar

open Query (tokens ofTokens entries Entry Apart Closed Whole)

namespace Editor

variable {e : Editor} {P : Text → Prop}

/-! ## The draft at the end -/

/-- The draft is at the end, and the chips and the draft have a property. -/
structure EndsIn (P : Text → Prop) (e : Editor) : Prop extends Sound e where
  inserting : e.editing = none
  cursor_eq : e.cursor = e.chips.length
  chips : ∀ t ∈ e.chips, P t
  draft : e.draft = [] ∨ P e.draft

theorem ofText_endsIn {query : Text} (h : ∀ t ∈ tokens query, P t) (focused : Bool) :
    (ofText query focused).EndsIn P :=
  ⟨ofText_sound query focused, rfl, rfl, h, .inl rfl⟩

theorem EndsIn.text_eq (h : e.EndsIn P) : e.text = ofTokens (e.chips ++ tokens e.draft) := by
  have hbefore : e.before = e.chips := by simp [before, h.cursor_eq]
  have hbehind : e.behind = [] := by simp [behind, h.cursor_eq]
  rw [Editor.text_eq h.toSound, hbefore, hbehind, List.append_nil]

theorem EndsIn.focus (h : e.EndsIn P) : (e.reduce .focus).EndsIn P := by
  have hs := h.toSound.reduce .focus
  rw [reduce_eq_next h.toSound] at hs ⊢
  exact ⟨hs, rfl, rfl, h.chips, h.draft⟩

theorem EndsIn.clear (h : e.EndsIn P) : (e.reduce .clear).EndsIn P := by
  have hs := h.toSound.reduce .clear
  rw [reduce_eq_next h.toSound] at hs ⊢
  exact ⟨hs, rfl, rfl, nofun, .inl rfl⟩

theorem EndsIn.setDraft (h : e.EndsIn P) {draft : Text} (hd : draft = [] ∨ P draft) :
    (e.reduce (.setDraft draft)).EndsIn P := by
  have hs := h.toSound.reduce (.setDraft draft)
  rw [reduce_eq_next h.toSound] at hs ⊢
  exact ⟨hs, h.inserting, h.cursor_eq, h.chips, hd⟩

theorem EndsIn.backspace (h : e.EndsIn P) : (e.reduce .backspace).EndsIn P := by
  rw [reduce_eq_next h.toSound]
  simp only [next, h.inserting]
  split
  · exact h
  · split
    · exact h
    · next hpos =>
      have hlast : e.HasChip (e.cursor - 1) := by
        have := h.cursor_eq
        unfold HasChip
        omega
      have hlen := length_eraseIdx_of_hasChip hlast
      have hs := h.toSound.eraseBefore h.inserting (by omega)
      rw [h.inserting] at hs
      refine ⟨hs, rfl, ?_, fun t ht => ?_, h.draft⟩
      · rw [hlen, h.cursor_eq]
      · exact h.chips t (List.mem_of_mem_eraseIdx ht)

theorem EndsIn.apply (h : e.EndsIn P) {token : Text} (ht : Text.Tidy token) (hP : P token) :
    (e.reduce (.apply token)).EndsIn P := by
  have hs := h.toSound.reduce (.apply token)
  have hlen := length_commit h.toSound token
  rw [reduce_apply_of_tidy h.toSound ht] at hs ⊢
  refine ⟨hs, rfl, ?_, fun t hmem => ?_, .inl rfl⟩
  · simp only [h.inserting, Option.isSome_none, Bool.false_eq_true, if_false] at hlen
    have hcur : (e.commit token).cursor = e.cursor + 1 := rfl
    rw [hcur, hlen, h.cursor_eq]
    rfl
  · rcases List.mem_append.1 hmem with hmem | hmem
    · exact h.chips t (List.mem_of_mem_take hmem)
    · rcases List.mem_cons.1 hmem with rfl | hmem
      · exact hP
      · exact h.chips t (List.mem_of_mem_drop hmem)

end Editor

namespace Session

variable {s : Session} {P : Text → Prop}

/-! ## Operations of a prompt -/

def Op.IsPrompt : Op → Prop
  | .enterLine _ | .undoLast | .act .clear | .act .focus => True
  | _ => False

theorem acceptText_endsIn (h : s.editor.EndsIn P) {t : Text} (ht : Text.Tidy t) (hP : P t) :
    (s.acceptText t).1.editor.EndsIn P := by
  rw [acceptText_eq, editor_dispatch, taking]
  split
  · exact h.setDraft (.inr hP)
  · exact h.apply ht hP

theorem enterTokens_endsIn (h : s.editor.EndsIn P) {ts : List Text}
    (hts : ∀ t ∈ ts, Text.Tidy t ∧ P t) : (s.enterTokens ts).editor.EndsIn P := by
  induction ts generalizing s with
  | nil => exact h
  | cons t ts ih =>
    obtain ⟨ht, hP⟩ := hts t (by simp)
    cases ts with
    | nil => exact acceptText_endsIn h ht hP
    | cons u us =>
      refine ih ?_ fun v hv => hts v (by simp [hv])
      rw [editor_dispatch]
      exact h.apply ht hP

/-- The first token of a line may have a stage in front of it that was left behind. -/
theorem of_mem_lineTokens (h : s.editor.draft = [] ∨ P s.editor.draft)
    (htidy : ∀ t, P t → Text.Tidy t) (happend : ∀ t u, P t → P u → P (t ++ u)) {line : Text}
    (hline : ∀ t ∈ tokens line, P t) : ∀ t ∈ s.lineTokens line, P t := by
  unfold lineTokens
  cases hts : tokens line with
  | nil => simp
  | cons t ts =>
    rw [hts] at hline
    simp only
    split
    · next hstage =>
      rcases h with hd | hd
      · simp [hd, isStage, Text.strip_nil] at hstage
      · intro u hu
        rcases List.mem_cons.1 hu with rfl | hu
        · rw [(htidy _ hd).strip_eq]
          exact happend _ _ hd (hline t (by simp))
        · exact hline u (by simp [hu])
    · exact hline

variable (htidy : ∀ t, P t → Text.Tidy t) (happend : ∀ t u, P t → P u → P (t ++ u))

include htidy happend

theorem perform_endsIn (h : s.editor.EndsIn P) {op : Op} (hop : op.IsPrompt)
    (hline : ∀ line, op = .enterLine line → ∀ t ∈ tokens line, P t) :
    (s.perform op).editor.EndsIn P := by
  cases op with
  | enterLine line =>
    refine enterTokens_endsIn h fun t ht => ?_
    have := of_mem_lineTokens h.draft htidy happend (hline line rfl) t ht
    exact ⟨htidy t this, this⟩
  | undoLast =>
    simp only [perform, undoLast]
    split
    · rw [editor_dispatch]
      exact h.setDraft (.inl rfl)
    · rw [editor_dispatch]
      exact h.backspace
  | act a =>
    cases a with
    | clear =>
      rw [perform, editor_dispatch]
      exact h.clear
    | focus =>
      rw [perform, editor_dispatch]
      exact h.focus
    | _ => exact hop.elim
  | _ => exact hop.elim

theorem run_endsIn (h : s.editor.EndsIn P) {ops : List Op} (hops : ∀ op ∈ ops, op.IsPrompt)
    (hlines : ∀ line, .enterLine line ∈ ops → ∀ t ∈ tokens line, P t) :
    (s.run ops).editor.EndsIn P := by
  induction ops generalizing s with
  | nil => exact h
  | cons op ops ih =>
    refine ih ?_ (fun o ho => hops o (by simp [ho])) fun line hl => hlines line (by simp [hl])
    refine perform_endsIn htidy happend h (hops op (by simp)) fun line hl => hlines line ?_
    simp [hl]

omit htidy happend

/-! ## Reading the query back -/

theorem entries_of_single {t : Text} (h : tokens t = [t]) : entries t = [Entry.ofToken t] := by
  simp [entries, h]

theorem chips_eq_map (h : ∀ t ∈ s.editor.chips, tokens t = [t]) :
    s.chips = s.editor.chips.map Entry.ofToken :=
  List.map_congr_left fun t ht => by simp [entries_of_single (h t ht)]

/-- At a prompt the query reads as the chips and the tokens of the draft just if these stay apart. -/
theorem tokens_text_iff (h : s.editor.EndsIn P) :
    tokens s.text = s.editor.chips ++ tokens s.editor.draft ↔
      Apart (s.editor.chips ++ tokens s.editor.draft) := by
  have htext : s.text = ofTokens (s.editor.chips ++ tokens s.editor.draft) := h.text_eq
  rw [htext]
  refine Query.tokens_ofTokens_iff fun t ht => ?_
  exact (List.mem_append.1 ht).elim (h.tidy t) Query.tidy_of_mem_tokens

theorem entries_text_of_apart (h : s.editor.EndsIn P)
    (hapart : Apart (s.editor.chips ++ tokens s.editor.draft)) :
    entries s.text = s.chips ++ entries s.editor.draft := by
  rw [chips_eq_map fun t ht => hapart.single t (List.mem_append_left _ ht), entries,
    (tokens_text_iff h).2 hapart, List.map_append]
  rfl

theorem apart_of_endsIn_whole (h : s.editor.EndsIn Whole) :
    Apart (s.editor.chips ++ tokens s.editor.draft) := by
  refine Query.apart_of_whole fun t ht => ?_
  rcases List.mem_append.1 ht with ht | ht
  · exact h.chips t ht
  · rcases h.draft with hd | hd
    · rw [hd] at ht
      cases ht
    · rw [Query.single_of_whole hd, List.mem_singleton] at ht
      exact ht ▸ hd

/-- At a prompt, the query reads as the chips followed by the tokens of the draft just if these stay
apart when they are joined. It has the readings of the chips then. They stay apart whenever no token
of the first query or of a line leaves a quotation or an escape open. -/
theorem prompt_reads_back_iff (query : Text) (catalog : Catalog) (limit entityLimit : Int)
    (echoes : Bool) (ops : List Op) (hops : ∀ op ∈ ops, op.IsPrompt) :
    let s := { start query catalog limit entityLimit with echoes := echoes }.run ops
    let pieces := s.editor.chips ++ tokens s.editor.draft
    ((entries s.text).map Entry.raw = pieces ↔ Apart pieces) ∧
      (Apart pieces → entries s.text = s.chips ++ entries s.editor.draft) ∧
      ((∀ t ∈ tokens query, Closed t) →
        (∀ line, .enterLine line ∈ ops → ∀ t ∈ tokens line, Closed t) → Apart pieces) := by
  intro s pieces
  have hend : s.editor.EndsIn Text.Tidy :=
    run_endsIn (fun _ h => h) (fun _ _ h h' => h.append h')
      (Editor.ofText_endsIn (fun _ => Query.tidy_of_mem_tokens) false) hops
      fun _ _ _ => Query.tidy_of_mem_tokens
  refine ⟨?_, entries_text_of_apart hend, fun hquery hlines => ?_⟩
  · rw [Query.entries_raw]
    exact tokens_text_iff hend
  · refine apart_of_endsIn_whole (run_endsIn (fun _ h => h.tidy) (fun _ _ h h' => h.append h') ?_
      hops fun line hl t ht => Query.whole_of_mem_tokens ht (hlines line hl t ht))
    exact Editor.ofText_endsIn (fun t ht => Query.whole_of_mem_tokens ht (hquery t ht)) false

/-- A quoted value, a key that is left behind, and its value on the next line. -/
theorem prompt_reads_back_quoted_value :
    let ops : List Op := [.enterLine "+crate:\"my crate\" colorBy:", .enterLine "crate loners:"]
    let s := (start "" {} 12 3).run ops
    (∀ op ∈ ops, op.IsPrompt) ∧
      s.editor.chips = ["+crate:\"my crate\"", "colorBy:crate"] ∧ s.editor.draft = "loners:" ∧
      entries s.text = s.chips ++ entries "loners:" := by
  intro ops s
  have hops : ∀ op ∈ ops, op.IsPrompt := by simp [ops, Op.IsPrompt]
  have hdraft : s.editor.draft = "loners:" := by decide
  have h := (prompt_reads_back_iff "" {} 12 3 false ops hops).2.1 (by decide)
  exact ⟨hops, by decide, hdraft, by rw [← hdraft]; exact h⟩

/-- A quotation that is left open takes the next chip with it. -/
theorem open_quotation_takes_next_chip :
    let ops : List Op := [.enterLine "+crate:\"my", .enterLine "loners:off"]
    let s := (start "" {} 12 3).run ops
    (∀ op ∈ ops, op.IsPrompt) ∧ s.editor.chips = ["+crate:\"my", "loners:off"] ∧
      s.editor.draft = [] ∧ (entries s.text).map Entry.raw = ["+crate:\"my loners:off"] := by
  intro ops s
  refine ⟨by simp [ops, Op.IsPrompt], by decide, by decide, ?_⟩
  rw [Query.entries_raw]
  decide

end Session

end FilterBar
