import FilterBar.Document
import FilterBar.Proofs.Editor.Highlight
import FilterBar.Proofs.Query.Placement
import FilterBar.Proofs.Session.Run
import FilterBar.Proofs.Suggestion.Form

/-!
# Accepting a suggestion

A suggestion that has a stage or is a sign is typed on, and any other one is a whole token. Accepting
goes by the text that is inserted, not by the suggestion: whatever ends in a colon becomes the draft.
That is right for each suggestion that is typed on, and for each whole token but those that end in a
colon themselves, which are built from an id that does (`isStage_inserted_iff`, `BuiltFrom.bare`).

`accept_follows_suggestion` says what accepting does in a session, and that completions in a document
are told apart in the same way.
-/

namespace FilterBar

open Query

namespace Suggestion

variable {c : Catalog} {s : Suggestion} {id token : Text}

/-! ## How tokens end -/

theorem BuiltFrom.exists_front (h : BuiltFrom c id token) :
    ∃ front w, IsFront front ∧ IsWritten id w ∧ token = front ++ w := by
  cases h with
  | @pick axis sign hmem =>
    exact ⟨_, _, .pick sign (Axis.ofKey?_key axis), isWritten_writtenId axis id, by simp⟩
  | focus hmem => exact ⟨_, _, .focus, isWritten_quote id, rfl⟩

theorem ne_nil_of_isWritten {w : Text} (h : IsWritten id w) : w ≠ [] := by
  cases h with
  | bare hbare =>
    obtain ⟨t, b, rfl, hne, -⟩ := exists_of_isBare hbare
    simp [hne]
  | quoted => simp [enquote]

theorem BuiltFrom.bare (h : BuiltFrom c id token) {b : Char} (hb : b ≠ '"')
    (hlast : token.getLast? = some b) : isBare id = true ∧ id.getLast? = some b := by
  obtain ⟨front, w, -, hwritten, rfl⟩ := h.exists_front
  rw [List.getLast?_append_of_ne_nil front (ne_nil_of_isWritten hwritten)] at hlast
  cases hwritten with
  | bare hbare => exact ⟨hbare, hlast⟩
  | quoted =>
    rw [enquote, List.getLast?_concat, Option.some.injEq] at hlast
    exact absurd hlast.symm hb

/-- Only a line feed at its end can keep a token from being tidy. -/
theorem BuiltFrom.tidy (h : BuiltFrom c id token) (hlast : token.getLast? ≠ some '\n') :
    Text.Tidy token := by
  obtain ⟨front, w, hfront, hwritten, rfl⟩ := h.exists_front
  obtain ⟨hne, hinert⟩ := hfront.inert
  refine (whole_of_inert hne hinert).tidy.append ?_
  rw [List.getLast?_append_of_ne_nil front (ne_nil_of_isWritten hwritten)] at hlast
  cases hwritten with
  | bare hbare =>
    obtain ⟨hne, hchars⟩ := forall_of_isBare hbare hlast
    exact tidy_of_forall_not_blank hne fun d hd => (hchars d hd).1
  | quoted => exact tidy_enquote id

theorem tidy_of_mem_settings (h : token ∈ settings) : Text.Tidy token := by
  have hmem : token ∈ tokens token := by
    rw [(valid_of_mem_settings token h).1]
    exact List.mem_singleton_self token
  exact tidy_of_mem_tokens hmem

theorem getLast?_of_mem_settings :
    ∀ token ∈ settings, token.getLast? ≠ some ':' ∧ token.getLast? ≠ some '\n' := by
  decide

/-! ## Suggestions that are typed on -/

/-- Whether the suggestion is one to go on from: it has a stage, or it is a sign. -/
def Continues (s : Suggestion) : Prop := s.stage.isSome = true ∨ s.token = "+" ∨ s.token = "-"

instance (s : Suggestion) : Decidable s.Continues := inferInstanceAs (Decidable (_ ∨ _))

theorem isStage_iff {t : Text} :
    isStage t = true ↔ (t = "+" ∨ t = "-") ∨ t.getLast? = some ':' := by
  simp only [isStage, Bool.or_eq_true, beq_iff_eq]
  rfl

theorem Form.stage_cases (h : Form c s) :
    s.stage = none ∨ ∃ stage, s.stage = some stage ∧ stage.getLast? = some ':' := by
  cases h with
  | placeholder hstage hcolon => exact .inr ⟨_, hstage, hcolon⟩
  | sign _ _ hstage | setting _ hstage | built _ hstage => exact .inl hstage

theorem Form.inserted_eq (h : Form c s) : s.inserted = s.stage.getD s.token := by
  rcases h.stage_cases with hstage | ⟨stage, hstage, hcolon⟩
  · simp [inserted, hstage]
  · have hne : stage ≠ [] := by
      rintro rfl
      cases hcolon
    simp [inserted, hstage, hne]

/-- The text that is inserted is a stage if the suggestion is one to go on from, or if its token ends
like a stage. -/
theorem Form.isStage_inserted_iff (h : Form c s) :
    isStage s.inserted = true ↔ s.Continues ∨ s.token.getLast? = some ':' := by
  rw [h.inserted_eq, isStage_iff]
  rcases h.stage_cases with hstage | ⟨stage, hstage, hcolon⟩
  · simp [Continues, hstage]
  · simp [Continues, hstage, hcolon]

theorem Form.whole (h : Form c s) (hs : ¬ s.Continues) :
    s.stage = none ∧ (s.token ∈ settings ∨ ∃ id, BuiltFrom c id s.token) := by
  cases h with
  | sign sign htoken =>
    refine absurd (.inr ?_) hs
    rw [htoken]
    cases sign <;> decide
  | placeholder hstage => exact absurd (.inl (by rw [hstage]; rfl)) hs
  | setting hmem hstage => exact ⟨hstage, .inl hmem⟩
  | built hbuilt hstage => exact ⟨hstage, .inr ⟨_, hbuilt⟩⟩

theorem Form.inserted_eq_token (h : Form c s) (hs : ¬ s.Continues) : s.inserted = s.token := by
  rw [h.inserted_eq, (h.whole hs).1, Option.getD_none]

theorem Form.tidy (h : Form c s) (hs : ¬ s.Continues) (hlast : s.token.getLast? ≠ some '\n') :
    Text.Tidy s.token := by
  rcases (h.whole hs).2 with hsetting | ⟨id, hbuilt⟩
  · exact tidy_of_mem_settings hsetting
  · exact hbuilt.tidy hlast

theorem Form.exists_bare (h : Form c s) (hs : ¬ s.Continues) {b : Char} (hb : b = ':' ∨ b = '\n')
    (hlast : s.token.getLast? = some b) :
    ∃ id, BuiltFrom c id s.token ∧ isBare id = true ∧ id.getLast? = some b := by
  rcases (h.whole hs).2 with hsetting | ⟨id, hbuilt⟩
  · obtain ⟨hcolon, hfeed⟩ := getLast?_of_mem_settings _ hsetting
    rcases hb with rfl | rfl
    · exact absurd hlast hcolon
    · exact absurd hlast hfeed
  · have hquote : b ≠ '"' := by rcases hb with rfl | rfl <;> decide
    exact ⟨id, hbuilt, hbuilt.bare hquote hlast⟩

end Suggestion

namespace Editor

/-- The chips with one more in place of the chip under edit, or else at the cursor. -/
def withChip (e : Editor) (chip : Text) : List Text :=
  match e.editing with
  | some i => e.chips.set i.toNat chip
  | none => e.chips.take e.cursor.toNat ++ chip :: e.chips.drop e.cursor.toNat

theorem chips_apply {e : Editor} (h : e.Sound) {t : Text} (ht : Text.Tidy t) :
    (e.reduce (.apply t)).chips = e.withChip t := by
  rw [chips_reduce h, edit, ht.strip_eq, if_neg ht.ne_nil, withChip]
  cases e.editing <;> rfl

theorem draft_apply {e : Editor} (h : e.Sound) {t : Text} (ht : Text.Tidy t) :
    (e.reduce (.apply t)).draft = [] := by
  rw [reduce_apply_of_tidy h ht, commit]

end Editor

namespace Session

open Suggestion (BuiltFrom)

variable {s : Session} {chosen : Suggestion}

theorem form_of_mem_suggestions (h : chosen ∈ s.suggestions) : Suggestion.Form s.catalog chosen :=
  Request.form_of_mem_suggestions h

theorem editor_accept (s : Session) (chosen : Suggestion) :
    (s.accept chosen).1.editor = s.editor.reduce (taking chosen.inserted) := by
  rw [accept, acceptText_eq, editor_dispatch]

/-- Accepting a suggestion to go on from, or one that ends in a colon, makes its stage the draft, or
its token if it has none. Any other suggestion is committed as it is if its token does not end in a
line feed. A whole token that ends in a colon or a line feed is built from an id that does and that
stands in it bare. Completions of a document are stages in the same cases. -/
theorem accept_follows_suggestion (query : Text) (catalog : Catalog) (limit entityLimit : Int)
    (echoes : Bool) (cs : List Call) :
    let s := { start query catalog limit entityLimit with echoes := echoes }.calls cs
    (∀ chosen ∈ s.suggestions,
      let e := (s.accept chosen).1.editor
      (chosen.Continues ∨ chosen.token.getLast? = some ':' →
        e.chips = s.editor.chips ∧ e.draft = chosen.stage.getD chosen.token) ∧
      (¬ chosen.Continues → chosen.token.getLast? ≠ some ':' → chosen.token.getLast? ≠ some '\n' →
        e.chips = s.editor.withChip chosen.token ∧ e.draft = []) ∧
      (¬ chosen.Continues → ∀ b, b = ':' ∨ b = '\n' → chosen.token.getLast? = some b →
        ∃ id, BuiltFrom s.catalog id chosen.token ∧ isBare id = true ∧ id.getLast? = some b)) ∧
    ∀ source line cursor, ∀ c ∈ Document.completions source line cursor catalog limit entityLimit,
      c.isStage = true ↔ c.suggestion.Continues ∨ c.suggestion.token.getLast? = some ':' := by
  intro s
  have hs : s.editor.Sound := calls_sound (Editor.ofText_sound query false) cs
  refine ⟨fun chosen hchosen => ?_, fun source line cursor c hc => ?_⟩
  · have hform := form_of_mem_suggestions hchosen
    simp only [editor_accept, taking]
    refine ⟨fun hstage => ?_, fun hcontinues hcolon hfeed => ?_,
      fun hcontinues b hb hlast => hform.exists_bare hcontinues hb hlast⟩
    · rw [if_pos (hform.isStage_inserted_iff.2 hstage), Editor.reduce_eq_next hs,
        hform.inserted_eq]
      exact ⟨rfl, rfl⟩
    · have hinserted := hform.inserted_eq_token hcontinues
      have hstage : ¬ isStage chosen.inserted = true := fun h =>
        (hform.isStage_inserted_iff.1 h).elim hcontinues hcolon
      have htidy := hform.tidy hcontinues hfeed
      rw [if_neg hstage, hinserted]
      exact ⟨Editor.chips_apply hs htidy, Editor.draft_apply hs htidy⟩
  · obtain ⟨rank, hrank, rfl⟩ := List.mem_mapIdx.1 hc
    exact (Request.form_of_mem_suggestions (List.getElem_mem hrank)).isStage_inserted_iff

/-- A crate takes the place of the chip under edit. -/
example :
    let s := (start "a b" { crates := [⟨"x", "x"⟩] } 12 3).calls
      [.op (.act (.editChip 0)), .op (.act (.setDraft "-crate:"))]
    s.suggestions.map (fun chosen => (s.accept chosen).1.editor.chips) =
      [[("-crate:x" : Text), "b"]] := by
  decide

/-- A crate whose id ends in a colon is not committed but becomes the draft, and its completion counts
as a stage. -/
theorem accept_drafts_crate_with_colon :
    let catalog : Catalog := { crates := [⟨"std:", "std:"⟩] }
    let s := (start "" catalog 12 3).calls [.op (.act (.setDraft "+crate:"))]
    let chosen : Suggestion := ⟨"+crate:std:", "Include only matching crate std:", none⟩
    let e := (s.accept chosen).1.editor
    chosen ∈ s.suggestions ∧ ¬ chosen.Continues ∧
      s.editor.withChip chosen.token = ["+crate:std:"] ∧ e.chips = [] ∧ e.draft = "+crate:std:" ∧
      (Document.completions "+crate:" "+crate:" ⟨0, 7⟩ catalog 12 3).map
          (fun c => (c.suggestion, c.isStage)) = [(chosen, true)] := by
  decide

end Session

end FilterBar
