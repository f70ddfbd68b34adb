import FilterBar.Proofs.Query.Selection
import FilterBar.Proofs.Query.Value

/-!
# Templates in selections

Whatever a selection holds went through the filter of one token, and a filter takes no template
(`not_isTemplate_of_mem_picks`, `not_isTemplate_of_focused`). A template is one line between angle
brackets. A value between angle brackets that goes over several lines is none, and can be picked like
any other: `selects_angled_iff` says that these are the only values between angle brackets that some
query selects.
-/

namespace FilterBar.Query

variable {query id : Text} {p : Pick}

/-! ## What a selection holds -/

theorem Selection.exists_of_focused {es : List Entry} (h : (ofEntries es).focused = some id) :
    ∃ e ∈ es, e.filter? = some (.focus id) := by
  have hlast := Setting.focused.get_foldl (es.filterMap Entry.filter?) empty
  rw [show Setting.focused.get empty = none from rfl, Option.or_none] at hlast
  have hmem := List.mem_of_getLast? (hlast.symm.trans h)
  obtain ⟨f, hf, hpart⟩ := List.mem_filterMap.1 hmem
  obtain ⟨e, he, hfilter⟩ := List.mem_filterMap.1 hf
  cases f with
  | focus =>
    cases hpart
    exact ⟨e, he, hfilter⟩
  | _ => cases hpart

theorem Entry.exists_ofKey? {e : Entry} {f : Filter} (he : e ∈ entries query)
    (h : e.filter? = some f) : ∃ sign key value, Filter.ofKey? sign key value = some f := by
  obtain ⟨token, -, rfl⟩ := List.mem_map.1 he
  obtain ⟨key, value, hread⟩ := Reading.exists_of_filter? h
  exact ⟨_, _, value, Reading.ofKey?_of_accepted hread⟩

theorem not_isTemplate_of_mem_picks (h : p ∈ (selection query).picks) :
    isTemplate p.value = false := by
  obtain ⟨e, he, hfilter⟩ := Selection.mem_picks_ofEntries.1 h
  obtain ⟨sign, key, value, hkey⟩ := Entry.exists_ofKey? he hfilter
  exact Filter.ofKey?_pick_not_template hkey

theorem not_isTemplate_of_focused (h : (selection query).focused = some id) :
    isTemplate id = false := by
  obtain ⟨e, he, hfilter⟩ := Selection.exists_of_focused h
  obtain ⟨sign, key, value, hkey⟩ := Entry.exists_ofKey? he hfilter
  exact Filter.ofKey?_focus_not_template hkey

/-! ## Between angle brackets -/

def angled (w : Text) : Text := '<' :: (w ++ ['>'])

theorem getLast?_angled (w : Text) : (angled w).getLast? = some '>' := by
  rw [angled, ← List.cons_append, List.getLast?_concat]

theorem isTemplate_angled (w : Text) : isTemplate (angled w) = !w.contains '\n' := by
  have hdrop : dropFinalLineFeed (angled w) = angled w := by
    simp [dropFinalLineFeed, getLast?_angled]
  rw [isTemplate, hdrop]
  simp [angled]

theorem strip_angled (w : Text) : Text.strip (angled w) = angled w := by
  refine Text.Tidy.strip_eq ⟨by simp [angled], fun c hc => ?_, fun c hc => ?_⟩
  · cases hc
    rfl
  · rw [getLast?_angled] at hc
    cases hc
    rfl

theorem isValue_angled {w : Text} (h : '\n' ∈ w) : IsValue (angled w) := by
  refine ⟨by simp [angled], ?_⟩
  rw [isTemplate_angled]
  simpa using h

/-- A value between angle brackets is picked by some query, on any axis and with any sign, just if it
goes over several lines, and the same is true of the focus. -/
theorem selects_angled_iff (w : Text) :
    (∀ axis sign, (∃ query, angled w ∈ (selection query).bucket axis sign) ↔ '\n' ∈ w) ∧
      ((∃ query, (selection query).focused = some (angled w)) ↔ '\n' ∈ w) := by
  have hlines (h : isTemplate (angled w) = false) : '\n' ∈ w := by
    rw [isTemplate_angled] at h
    simpa using h
  refine ⟨fun axis sign => ⟨?_, fun hline => ?_⟩, ⟨?_, fun hline => ?_⟩⟩
  · rintro ⟨query, hmem⟩
    exact hlines (not_isTemplate_of_mem_picks (Selection.mem_bucket.1 hmem))
  · have hselects := (takes_pick (Axis.ofKey?_key axis) sign).selects (isWritten_quote (angled w))
    refine ⟨sign.mark :: (axis.key ++ ':' :: quote (angled w)), ?_⟩
    have hpicked := hselects.selection
    rw [strip_angled, if_pos (isValue_angled hline)] at hpicked
    exact Selection.mem_bucket.2 (hpicked ▸ Selection.mem_picks_add.2 (.inr rfl))
  · rintro ⟨query, hfocused⟩
    exact hlines (not_isTemplate_of_focused hfocused)
  · have hselects := takes_focus.selects (isWritten_quote (angled w))
    refine ⟨"focus:" ++ quote (angled w), ?_⟩
    have hfocused := hselects.selection
    rw [strip_angled, if_pos (isValue_angled hline)] at hfocused
    exact hfocused ▸ rfl

/-- A line feed between the brackets makes a template a value. -/
theorem angled_lines_are_picked :
    (selection "+crate:\"<a\nb>\" focus:\"<\n>\"").bucket .crate .plus = [angled "a\nb"] ∧
      (selection "+crate:\"<a\nb>\" focus:\"<\n>\"").focused = some (angled "\n") := by
  decide

end FilterBar.Query
