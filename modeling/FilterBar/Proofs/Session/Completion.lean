import FilterBar.Proofs.Query.Rejoin
import FilterBar.Proofs.Session.Accept
import FilterBar.Proofs.Session.Intake

/-!
# Completing at a prompt

A completion is what a suggestion inserts, without the draft at its front. It can be entered as a
line, which is cut into tokens and joined to the draft again, or the suggestion can be accepted, which
takes the whole text. `enter_completion_iff` says when the two do the same.

They do if the completion is one token, as it is whenever the draft is closed
(`tokens_of_closed_append`), and if it is not taken for a token of its own. A line whose first token
has a sign begins anew and drops the draft, so with a draft a value that begins with a sign is not
entered as it is accepted.
-/

namespace FilterBar

open Query (tokens Closed Sign Inert Whole)

/-! ## Inserted texts -/

namespace Suggestion

variable {c : Catalog} {s : Suggestion} {id token : Text}

theorem mem_keys_of_mem_axisKeys {sign : Sign} (h : s ∈ axisKeys [sign.mark]) : s ∈ keys := by
  cases sign with
  | plus => exact List.mem_append_left _ (List.mem_append_left _ h)
  | minus => exact List.mem_append_left _ (List.mem_append_right _ h)

theorem whole_inserted_of_mem_keys (h : s ∈ keys) : Whole s.inserted := by
  have hinert : ∀ s ∈ keys, s.inserted ≠ [] ∧ s.inserted.all (Inert ·) = true := by decide
  obtain ⟨hne, hall⟩ := hinert s h
  exact Query.whole_of_inert hne fun c hc => of_decide_eq_true (List.all_eq_true.1 hall c hc)

theorem BuiltFrom.single (h : BuiltFrom c id token) (hlast : token.getLast? ≠ some '\n') :
    tokens token = [token] := by
  refine (Query.tokens_eq_singleton_iff (h.tidy hlast)).2 ?_
  obtain ⟨front, w, hfront, hwritten, rfl⟩ := h.exists_front
  obtain ⟨hne, hinert⟩ := hfront.inert
  have hwhole := Query.whole_of_inert hne hinert
  refine Query.Scan.covers_append.2 ⟨hwhole.covers, ?_⟩
  rw [hwhole.after_eq]
  rw [List.getLast?_append_of_ne_nil front (ne_nil_of_isWritten hwritten)] at hlast
  cases hwritten with
  | bare hbare =>
    obtain ⟨-, hchars⟩ := Query.forall_of_isBare hbare hlast
    exact Query.Scan.covers_of_forall_not_blank fun d hd => (hchars d hd).1
  | quoted => exact Query.covers_enquote id

theorem Form.single (h : Form c s) (hstage : s.stage = none)
    (hlast : s.inserted.getLast? ≠ some '\n') : tokens s.inserted = [s.inserted] := by
  have hinserted : s.inserted = s.token := by rw [h.inserted_eq, hstage, Option.getD_none]
  rw [hinserted] at hlast ⊢
  cases h with
  | sign sign htoken =>
    rw [htoken]
    cases sign <;> decide
  | placeholder hsome => simp [hstage] at hsome
  | setting hmem => exact (valid_of_mem_settings _ hmem).1
  | built hbuilt => exact hbuilt.single hlast

end Suggestion

namespace Request

open Suggestion

variable {r : Request} {s : Suggestion} {key value fragment rest written : Text}
  {found : List Suggestion} {sign : Option Sign}

/-! ## Stages are those of the fixed keys -/

theorem stage_of_mem_focusCandidates (h : s ∈ r.focusCandidates value) : s.stage = none := by
  unfold focusCandidates at h
  split at h
  · obtain ⟨e, -, rfl⟩ := List.mem_map.1 h
    rfl
  · obtain ⟨id, -, rfl⟩ := List.mem_map.1 h
    rfl

theorem stage_of_mem_controlCandidates (hfound : r.controlCandidates? key value = some found)
    (h : s ∈ found) : s.stage = none := by
  unfold controlCandidates? at hfound
  repeat' split at hfound
  all_goals first
    | cases hfound; exact stage_of_mem_focusCandidates h
    | cases hfound; obtain ⟨_, -, rfl⟩ := List.mem_map.1 h; rfl
    | cases hfound

theorem mem_keys_of_mem_keyCandidates (h : s ∈ r.keyCandidates fragment) (hstage : s.stage ≠ none) :
    s ∈ keys := by
  unfold keyCandidates at h
  split at h
  · exact mem_keys_of_mem_axisKeys (Match.mem_of_mem_best h)
  split at h
  · rcases List.mem_append.1 h with h | h
    · simp only [signs, List.mem_cons, List.not_mem_nil, or_false] at h
      rcases h with rfl | rfl <;> exact absurd rfl hstage
    · exact List.mem_append_right _ (List.mem_of_mem_take h)
  · rcases List.mem_append.1 h with h | h
    · obtain ⟨e, -, h⟩ := List.mem_flatMap.1 h
      simp only [ofEntity, List.mem_cons, List.not_mem_nil, or_false] at h
      rcases h with rfl | rfl | rfl <;> exact absurd rfl hstage
    · exact Match.mem_of_mem_best h

theorem mem_keys_of_mem_valueCandidates (h : s ∈ r.valueCandidates fragment sign rest key written)
    (hstage : s.stage ≠ none) : s ∈ keys := by
  simp only [valueCandidates] at h
  split at h
  · exact absurd (exists_id_of_mem_axisCandidates h).1 hstage
  split at h
  · next hfound _ => exact absurd (stage_of_mem_controlCandidates hfound h) hstage
  · exact mem_keys_of_mem_axisKeys (Match.mem_of_mem_best h)
  · exact Match.mem_of_mem_best h

theorem mem_keys_of_mem_candidates (h : s ∈ r.candidates) (hstage : s.stage ≠ none) : s ∈ keys := by
  simp only [candidates] at h
  split at h
  · exact mem_keys_of_mem_keyCandidates h hstage
  · exact mem_keys_of_mem_valueCandidates h hstage

theorem single_of_mem_suggestions (h : s ∈ r.suggestions) (hlast : s.inserted.getLast? ≠ some '\n') :
    tokens s.inserted = [s.inserted] := by
  by_cases hstage : s.stage = none
  · exact (form_of_mem_suggestions h).single hstage hlast
  · have hkey := mem_keys_of_mem_candidates (mem_of_mem_offerAfter h).1 hstage
    exact Query.single_of_whole (whole_inserted_of_mem_keys hkey)

end Request

/-! ## Lists with a stage -/

namespace Intake

variable {q : Intake} {ts us : List Text} {stage c : Text}

theorem take_eq_take_iff (hts : ts ≠ []) (hus : us ≠ []) : q.take ts = q.take us ↔ ts = us := by
  constructor
  · intro h
    have hrow := congrArg row h
    rwa [row_take hts, row_take hus, List.append_cancel_left_eq] at hrow
  · rintro rfl
    rfl

/-- The tokens of a line are the one with the stage in front of the line just if the line is one token
and has no sign behind a stage. -/
theorem continued_eq_singleton_iff (hstage : stage = [] ∨ isStage stage = true) (hc : Query.tokens c ≠ []) :
    continued stage (Query.tokens c) = [stage ++ c] ↔
      Query.tokens c = [c] ∧ (stage = [] ∨ (Sign.split c).1 = none) := by
  obtain ⟨u, us, hu⟩ := List.exists_cons_of_ne_nil hc
  have hlen : u.length ≤ c.length := Query.length_le_of_mem_tokens (hu ▸ List.mem_cons_self)
  rw [hu, continued]
  split
  · next hjoin =>
    have hunsigned : (Sign.split u).1 = none := by
      simp only [Bool.and_eq_true, Option.isNone_iff_eq_none] at hjoin
      exact hjoin.2
    simp only [List.cons.injEq, List.append_cancel_left_eq]
    refine ⟨fun h => ⟨h, .inr (h.1 ▸ hunsigned)⟩, And.left⟩
  · next hapart =>
    rcases hstage with rfl | hstage
    · simp
    · -- The first token has a sign, so that the stage is gone.
      have hsigned : (Sign.split u).1 ≠ none := by simpa [hstage] using hapart
      have hne := ne_nil_of_isStage hstage
      refine iff_of_false (fun h => ?_) fun h => ?_
      · have := List.length_pos_of_ne_nil hne
        rw [(List.cons.inj h).1, List.length_append] at hlen
        omega
      · exact hsigned ((List.cons.inj h.1).1 ▸ h.2.resolve_left hne)

end Intake

namespace Session

variable {s : Session} {word completion : Text} {chosen : Suggestion}

/-! ## Completions -/

theorem AtPrompt.strip_draft (h : s.AtPrompt) : Text.strip s.editor.draft = s.editor.draft := by
  rcases h.endsIn.draft with hd | hd
  · rw [hd]
    rfl
  · exact hd.strip_eq

theorem mem_of_mem_preferred {p : Text → Bool} {ts : List Text} {t : Text}
    (h : t ∈ if (ts.filter p).isEmpty then ts else ts.filter p) : t ∈ ts := by
  split at h
  · exact h
  · exact List.mem_of_mem_filter h

theorem AtPrompt.exists_chosen (h : s.AtPrompt) (hc : completion ∈ s.completions word) :
    ∃ chosen ∈ (s.request (s.editor.draft ++ word) s.editor.chips).suggestions,
      chosen.inserted = s.editor.draft ++ completion := by
  simp only [completions, h.strip_draft] at hc
  have hrest := mem_of_mem_preferred hc
  split at hrest
  · next hnil =>
    obtain ⟨chosen, hchosen, heq⟩ := List.mem_map.1 hrest
    exact ⟨chosen, hchosen, by rw [heq, List.isEmpty_iff.1 hnil, List.nil_append]⟩
  · obtain ⟨t, ht, rfl⟩ := List.mem_map.1 hrest
    obtain ⟨hfound, hopens⟩ := List.mem_filter.1 ht
    obtain ⟨chosen, hchosen, rfl⟩ := List.mem_map.1 hfound
    have hcut := List.prefix_iff_eq_append.1 (List.isPrefixOf_iff_prefix.1 hopens)
    exact ⟨chosen, hchosen, hcut.symm⟩

theorem found_ask_zero (memory : Completer) (s : Session) (word : Text) :
    (memory.ask s word 0).1.found = s.completions word := by
  unfold Completer.ask
  simp only [if_true]
  split
  · split <;> rfl
  · rfl

theorem mem_of_at? {α : Type} {i : Int} {xs : List α} {x : α} (h : Cut.at? i xs = some x) :
    x ∈ xs := by
  simp only [Cut.at?, Option.ite_none_left_eq_some] at h
  exact List.mem_of_getElem? h.2

theorem mem_of_ask {memory : Completer} {number : Int}
    (h : (memory.ask s word number).2 = .ok (some completion)) :
    completion ∈ if number = 0 then s.completions word else memory.found := by
  unfold Completer.ask at h
  rw [← apply_ite Completer.found (number = 0) ⟨s.completions word⟩ memory]
  generalize (if number = 0 then (⟨s.completions word⟩ : Completer) else memory) = m at h ⊢
  simp only at h
  split at h
  · split at h
    · next hat =>
      cases h
      exact mem_of_at? hat
    · cases h
  · cases h

theorem mem_completions_of_ask {memory : Completer} {number : Int}
    (h : ((memory.ask s word 0).1.ask s word number).2 = .ok (some completion)) :
    completion ∈ s.completions word := by
  have hmem := mem_of_ask h
  rwa [found_ask_zero, ite_self] at hmem

/-! ## Entering and accepting -/

theorem AtPrompt.intake_enterLine (h : s.AtPrompt) (line : Text) :
    (s.enterLine line).intake = s.intake.take (Intake.continued s.editor.draft (tokens line)) :=
  intake_call h.endsIn (c := .op (.enterLine line)) trivial

theorem AtPrompt.intake_accept (h : s.AtPrompt) (ht : Text.Tidy chosen.inserted) :
    (s.accept chosen).1.intake = s.intake.take [chosen.inserted] := by
  have hts : ∀ t ∈ [chosen.inserted], Text.Tidy t := by simpa using ht
  exact intake_enterTokens h.endsIn hts

/-- Nothing is left of a stage that a suggestion inserts once more, and accepting it changes nothing. -/
theorem AtPrompt.take_draft (h : s.AtPrompt) (hne : s.editor.draft ≠ []) :
    s.intake.take [s.editor.draft] = s.intake := by
  have hstage : isStage s.editor.draft = true := h.stage.resolve_left hne
  simp [Intake.take, hstage, intake]

theorem AtPrompt.enter_eq_accept_iff (h : s.AtPrompt)
    (hsingle : tokens chosen.inserted = [chosen.inserted])
    (hchosen : chosen.inserted = s.editor.draft ++ completion) :
    (s.enterLine completion).intake = (s.accept chosen).1.intake ↔
      completion = [] ∨ tokens completion = [completion] ∧
        (s.editor.draft = [] ∨ (Sign.split completion).1 = none) := by
  have htidy := Query.tidy_of_single hsingle
  rw [h.intake_enterLine, h.intake_accept htidy, hchosen]
  rw [hchosen] at htidy
  have hstage : s.editor.draft = [] ∨ isStage s.editor.draft = true := h.stage
  by_cases hnil : completion = []
  · -- The draft itself is inserted.
    subst hnil
    rw [List.append_nil] at htidy ⊢
    rw [h.take_draft htidy.ne_nil, Query.tokens_nil]
    exact iff_of_true rfl (.inl rfl)
  · have htokens : tokens completion ≠ [] := fun htokens => by
      -- The text ends as the completion does, with no blank.
      have hlast := List.getLast?_eq_some_getLast hnil
      have hblank := Query.isBlank_of_tokens_eq_nil htokens _ (List.mem_of_getLast? hlast)
      have hend := htidy.last _ (by rw [List.getLast?_append_of_ne_nil _ hnil]; exact hlast)
      simp [hblank] at hend
    have hline : Intake.continued s.editor.draft (tokens completion) ≠ [] := by
      obtain ⟨t, ts, hts⟩ := List.exists_cons_of_ne_nil htokens
      rw [hts, Intake.continued]
      split <;> simp
    rw [Intake.take_eq_take_iff hline (by simp), Intake.continued_eq_singleton_iff hstage htokens]
    exact (or_iff_right hnil).symm

/-- A completion that is handed out at a prompt is what a suggestion inserts, without the draft in
front. Entering it does the same to the chips and the draft as accepting the suggestion just if there
is nothing to enter, or if the completion is one token and, with a draft, has no sign. If the draft is
closed, the completion is nothing or one token. All this is said of suggestions that do not end in a
line feed. -/
theorem enter_completion_iff (query : Text) (catalog : Catalog) (limit entityLimit : Int)
    (echoes : Bool) (cs : List Call) (hcs : ∀ c ∈ cs, c.IsPrompt) :
    let s := { start query catalog limit entityLimit with echoes := echoes }.calls cs
    let draft := s.editor.draft
    ∀ (memory : Completer) (word : Text) (number : Int) (completion : Text),
      ((memory.ask s word 0).1.ask s word number).2 = .ok (some completion) →
      let offered := (s.request (draft ++ word) s.editor.chips).suggestions
      (∃ chosen ∈ offered, chosen.inserted = draft ++ completion) ∧
      ∀ chosen ∈ offered, chosen.inserted = draft ++ completion →
        chosen.inserted.getLast? ≠ some '\n' →
        ((s.enterLine completion).intake = (s.accept chosen).1.intake ↔
          completion = [] ∨ tokens completion = [completion] ∧
            (draft = [] ∨ (Sign.split completion).1 = none)) ∧
        (Closed draft → completion = [] ∨ tokens completion = [completion]) := by
  intro s draft memory word number completion hask offered
  have hprompt : s.AtPrompt := by
    have hstart : AtPrompt { start query catalog limit entityLimit with echoes := echoes } :=
      ⟨Editor.ofText_endsIn (fun _ => Query.tidy_of_mem_tokens) false, .inl rfl⟩
    exact (hstart.calls hcs).1
  refine ⟨hprompt.exists_chosen (mem_completions_of_ask hask), fun chosen hchosen heq hlast => ?_⟩
  have hsingle := Request.single_of_mem_suggestions hchosen hlast
  refine ⟨hprompt.enter_eq_accept_iff hsingle heq, fun hclosed => ?_⟩
  rw [heq] at hsingle
  exact or_iff_not_imp_left.2 (Query.tokens_of_closed_append hsingle hclosed)

/-- A quoted crate behind its key, which was left behind by a line. -/
theorem enter_completed_crate :
    let catalog : Catalog := { crates := [⟨"b", "b"⟩, ⟨"a b\\", "a"⟩] }
    let cs : List Call := [.quiet .focus, .op (.enterLine "x +crate:")]
    let s := (start "" catalog 12 3).calls cs
    let chosen : Suggestion := ⟨"+crate:\"a b\\\\\"", "Include only matching crate a", none⟩
    (∀ c ∈ cs, c.IsPrompt) ∧
      ((({} : Completer).ask s "" 0).1.ask s "" 1).2 = .ok (some "\"a b\\\\\"") ∧
      chosen ∈ s.suggestions ∧
      (s.enterLine "\"a b\\\\\"").intake = (s.accept chosen).1.intake ∧
      (s.accept chosen).1.intake = ⟨["x", "+crate:\"a b\\\\\""], []⟩ := by
  intro catalog cs s chosen
  have hcs : ∀ c ∈ cs, c.IsPrompt := by simp [cs, Call.IsPrompt, Op.IsPrompt]
  have hask : ((({} : Completer).ask s "" 0).1.ask s "" 1).2 = .ok (some "\"a b\\\\\"") := by
    decide
  obtain ⟨-, h⟩ := enter_completion_iff "" catalog 12 3 false cs hcs {} "" 1 _ hask
  have hagree := (h chosen (by decide) (by decide) (by decide)).1.2 (by decide)
  exact ⟨hcs, hask, by decide, hagree, by decide⟩

/-- A value that begins with a sign is entered as a token of its own, and the rest of a value whose
quotation the draft has opened is cut at its blanks. -/
theorem completion_is_entered_apart :
    let catalog : Catalog := { crates := [⟨"-x", "-x"⟩, ⟨"a: b", "a: b"⟩] }
    let s := (start "" catalog 12 3).calls [.op (.enterLine "+crate:")]
    let chosen : Suggestion := ⟨"+crate:-x", "Include only matching crate -x", none⟩
    let s' := (start "" catalog 12 3).calls [.op (.enterLine "+crate:\"a:")]
    let chosen' : Suggestion := ⟨"+crate:\"a: b\"", "Include only matching crate a: b", none⟩
    (chosen ∈ (s.request "+crate:" []).suggestions ∧ ("-x" : Text) ∈ s.completions "" ∧
      chosen.inserted = s.editor.draft ++ "-x" ∧
      (s.enterLine "-x").intake = ⟨["-x"], []⟩ ∧
      (s.accept chosen).1.intake = ⟨["+crate:-x"], []⟩) ∧
    (chosen' ∈ (s'.request "+crate:\"a:" []).suggestions ∧ (" b\"" : Text) ∈ s'.completions "" ∧
      chosen'.inserted = s'.editor.draft ++ " b\"" ∧
      (s'.enterLine " b\"").intake = ⟨["+crate:\"a:b\""], []⟩ ∧
      (s'.accept chosen').1.intake = ⟨["+crate:\"a: b\""], []⟩) := by
  decide

end Session

end FilterBar
