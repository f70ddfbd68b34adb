import FilterBar.Proofs.Query.Canonical
import FilterBar.Proofs.Query.Template
import FilterBar.Proofs.Suggestion.Limit

/-!
# Filters that the query has already

A candidate is held back if a token of the query has its canonical form. That never hides anything
new: tokens with the same canonical form have the same effect (`hidden_only_for_same_effect`). It
does not find every filter that the query has, though. The canonical form keeps the blanks around
a value and the sign in front of a focus, and reading drops both, so that a filter which is spelt
with other blanks or another sign is offered again. `repeats_nothing_iff` says that there is no
other way.

- `Repeats`: whether two tokens pick the same value or focus the same node.
- `SpeltAlike`: whether they do so with the same sign and the same blanks.
-/

namespace FilterBar

open Query

variable {a b e t : Text} {r : Request}

namespace Query

/-! ## The effect of one token -/

theorem Entry.isValid_eq_of_canonical_eq (h : canonical a = canonical b) :
    (ofToken a).isValid = (ofToken b).isValid := by
  rw [isValid, isValid, filter?_eq_of_canonical_eq h]

namespace Selection

theorem read_eq_of_canonical_eq (h : canonical a = canonical b) (s : Selection) :
    s.read a = s.read b := by
  rw [read, read, Entry.filter?_eq_of_canonical_eq h]

theorem ofTokens_singleton (t : Text) : ofTokens [t] = ofEntries [Entry.ofToken t] :=
  ofTokens_eq [t]

theorem mem_bucket_ofTokens_singleton {axis : Axis} {sign : Sign} {value : Text} :
    value ∈ (ofTokens [t]).bucket axis sign ↔
      (Entry.ofToken t).filter? = some (.pick ⟨axis, sign, value⟩) := by
  rw [ofTokens_singleton, mem_bucket, mem_picks_ofEntries]
  simp only [List.mem_singleton, exists_eq_left]

theorem focused_ofTokens_singleton {id : Text} :
    (ofTokens [t]).focused = some id ↔ (Entry.ofToken t).filter? = some (.focus id) := by
  constructor
  · intro h
    rw [ofTokens_singleton] at h
    obtain ⟨e, he, hfilter⟩ := exists_of_focused h
    rwa [← List.mem_singleton.1 he]
  · intro h
    show (empty.read t).focused = some id
    rw [read, h]
    rfl

end Selection

/-! ## Repeated filters -/

/-- Whether two tokens, each read on its own, pick the same value with the same axis and sign, or
focus the same node. -/
def Repeats (e t : Text) : Prop :=
  (∃ axis sign value, value ∈ (Selection.ofTokens [e]).bucket axis sign ∧
    value ∈ (Selection.ofTokens [t]).bucket axis sign) ∨
  ∃ id, (Selection.ofTokens [e]).focused = some id ∧ (Selection.ofTokens [t]).focused = some id

/-- Whether two tokens have the same sign and the same value, blanks around it included. -/
def SpeltAlike (e t : Text) : Prop :=
  ∃ p q, Parts.of? e = some p ∧ Parts.of? t = some q ∧ p.sign = q.sign ∧ p.value = q.value

/-- Tokens that repeat each other have the same listed key, the same value but for blanks around
it, and the same sign unless they focus. -/
theorem Repeats.exists_parts (h : Repeats e t) :
    ∃ p q, Parts.of? e = some p ∧ Parts.of? t = some q ∧ p.key = q.key ∧
      Text.strip p.value = Text.strip q.value ∧ (p.sign = q.sign ∨ p.key = "focus") := by
  rcases h with ⟨axis, sign, value, he, ht⟩ | ⟨id, he, ht⟩
  · rw [Selection.mem_bucket_ofTokens_singleton, Entry.filter?_ofToken,
      Option.bind_eq_some_iff] at he ht
    obtain ⟨p, hp, hpf⟩ := he
    obtain ⟨q, hq, hqf⟩ := ht
    obtain ⟨hpsign, hpkey, hpvalue⟩ := Parts.of_filter?_pick hpf
    obtain ⟨hqsign, hqkey, hqvalue⟩ := Parts.of_filter?_pick hqf
    exact ⟨p, q, hp, hq, hpkey.trans hqkey.symm, hpvalue.trans hqvalue.symm,
      .inl (hpsign.trans hqsign.symm)⟩
  · rw [Selection.focused_ofTokens_singleton, Entry.filter?_ofToken,
      Option.bind_eq_some_iff] at he ht
    obtain ⟨p, hp, hpf⟩ := he
    obtain ⟨q, hq, hqf⟩ := ht
    obtain ⟨hpkey, hpvalue⟩ := Parts.of_filter?_focus hpf
    obtain ⟨hqkey, hqvalue⟩ := Parts.of_filter?_focus hqf
    exact ⟨p, q, hp, hq, hpkey.trans hqkey.symm, hpvalue.trans hqvalue.symm, .inr hpkey⟩

theorem Repeats.canonical_eq_iff (h : Repeats e t) :
    canonical e = canonical t ↔ SpeltAlike e t := by
  obtain ⟨p, q, hp, hq, hkey, -⟩ := h.exists_parts
  rw [Parts.canonical_of_some hp, Parts.canonical_of_some hq, Parts.text_injective.eq_iff]
  constructor
  · rintro rfl
    exact ⟨p, p, hp, hq, rfl, rfl⟩
  · rintro ⟨p', q', hp', hq', hsign, hvalue⟩
    rw [hp, Option.some.injEq] at hp'
    rw [hq, Option.some.injEq] at hq'
    subst hp'
    subst hq'
    exact Parts.eq_of hsign hkey hvalue

/-- Tokens that repeat each other in different canonical forms have other blanks around the value,
or focus with another sign. -/
theorem Repeats.differ (h : Repeats e t) (hne : canonical e ≠ canonical t) :
    ∃ p q, Parts.of? e = some p ∧ Parts.of? t = some q ∧ p.key = q.key ∧
      Text.strip p.value = Text.strip q.value ∧
      (p.value ≠ q.value ∨ p.key = "focus" ∧ p.sign ≠ q.sign) := by
  obtain ⟨p, q, hp, hq, hkey, hvalue, hsign⟩ := h.exists_parts
  refine ⟨p, q, hp, hq, hkey, hvalue, ?_⟩
  by_cases hsame : p.sign = q.sign
  · exact .inl fun heq => hne (h.canonical_eq_iff.2 ⟨p, q, hp, hq, hsame, heq⟩)
  · exact .inr ⟨hsign.resolve_left hsame, hsame⟩

theorem Repeats.of_canonical_eq {u : Text} (h : Repeats e t) (heq : canonical u = canonical t) :
    Repeats u t := by
  have hread : Selection.ofTokens [u] = Selection.ofTokens [t] :=
    Selection.read_eq_of_canonical_eq heq .empty
  rw [Repeats, hread]
  exact h.imp (fun ⟨axis, sign, value, _, ht⟩ => ⟨axis, sign, value, ht, ht⟩)
    fun ⟨id, _, ht⟩ => ⟨id, ht, ht⟩

end Query

namespace Suggestion

/-! ## What is held back -/

theorem mem_suggestions_iff :
    t ∈ r.suggestions.map token ↔ t ∈ r.candidates.map token ∧ IsNew r.existing t := by
  rw [Request.suggestions, offer_tokens, mem_newTokens]

theorem not_isNew_iff : ¬ IsNew r.existing t ↔ ∃ e ∈ r.existing, canonical e = canonical t := by
  rw [IsNew, not_not, List.mem_map]

/-- Tokens with the same canonical form are both valid or both refused, and change every selection
in the same way. So no token is offered twice, and each candidate is offered or has the same
effect as a token that the query has already. -/
theorem hidden_only_for_same_effect :
    (∀ a b, canonical a = canonical b →
      (Entry.ofToken a).isValid = (Entry.ofToken b).isValid ∧
        ∀ s : Selection, s.read a = s.read b) ∧
    ∀ r : Request, (r.suggestions.map token).Nodup ∧
      ∀ c ∈ r.candidates, c.token ∈ r.suggestions.map token ∨
        ∃ e ∈ r.existing, canonical e = canonical c.token ∧
          (Entry.ofToken e).isValid = (Entry.ofToken c.token).isValid ∧
          ∀ s : Selection, s.read e = s.read c.token := by
  have heffect : ∀ a b, canonical a = canonical b →
      (Entry.ofToken a).isValid = (Entry.ofToken b).isValid ∧
        ∀ s : Selection, s.read a = s.read b :=
    fun _ _ h => ⟨Entry.isValid_eq_of_canonical_eq h, Selection.read_eq_of_canonical_eq h⟩
  refine ⟨heffect, fun r => ⟨offerAfter_tokens_nodup _ _ _, fun c hc => ?_⟩⟩
  by_cases hnew : IsNew r.existing c.token
  · exact .inl (mem_suggestions_iff.2 ⟨List.mem_map_of_mem hc, hnew⟩)
  · obtain ⟨e, he, heq⟩ := not_isNew_iff.1 hnew
    exact .inr ⟨e, he, heq, heffect e c.token heq⟩

/-- A node that the query has under the other name of its key and in quotes is held back. -/
theorem other_key_is_held_back :
    let r : Request :=
      { fragment := "+node:", existing := ["+ID:\"a\""], catalog := { nodeIds := ["a"] } }
    canonical "+ID:\"a\"" = canonical "+node:a" ∧
      (∀ s : Selection, s.read "+ID:\"a\"" = s.read "+node:a") ∧
      r.candidates.map token = ["+node:a"] ∧ r.suggestions = [] := by
  intro r
  have hcanonical : canonical "+ID:\"a\"" = canonical "+node:a" := by decide
  exact ⟨hcanonical, (hidden_only_for_same_effect.1 _ _ hcanonical).2, by decide, by decide⟩

/-! ## What is offered again -/

/-- No suggestion repeats a token of the query just if each candidate that repeats one repeats one
that is spelt alike. A suggestion that repeats a token has the same key, and it has other blanks
around its value, or it focuses and has another sign. -/
theorem repeats_nothing_iff (r : Request) :
    ((∀ s ∈ r.suggestions, ∀ e ∈ r.existing, ¬ Repeats e s.token) ↔
      ∀ c ∈ r.candidates, ∀ e ∈ r.existing, Repeats e c.token →
        ∃ u ∈ r.existing, Repeats u c.token ∧ SpeltAlike u c.token) ∧
    ∀ s ∈ r.suggestions, ∀ e ∈ r.existing, Repeats e s.token →
      ∃ p q, Parts.of? e = some p ∧ Parts.of? s.token = some q ∧ p.key = q.key ∧
        Text.strip p.value = Text.strip q.value ∧
        (p.value ≠ q.value ∨ p.key = "focus" ∧ p.sign ≠ q.sign) := by
  refine ⟨⟨fun h c hc e he hrepeats => ?_, fun h s hs e he hrepeats => ?_⟩,
    fun s hs e he hrepeats => ?_⟩
  · have hold : ¬ IsNew r.existing c.token := by
      intro hnew
      obtain ⟨s, hs, htoken⟩ :=
        List.mem_map.1 (mem_suggestions_iff.2 ⟨List.mem_map_of_mem hc, hnew⟩)
      exact h s hs e he (htoken ▸ hrepeats)
    obtain ⟨u, hu, heq⟩ := not_isNew_iff.1 hold
    have hu' : Repeats u c.token := hrepeats.of_canonical_eq heq
    exact ⟨u, hu, hu', hu'.canonical_eq_iff.1 heq⟩
  · have hmem := mem_of_mem_offerAfter hs
    obtain ⟨u, hu, hu', halike⟩ := h s hmem.1 e he hrepeats
    exact hmem.2.2 (List.mem_map.2 ⟨u, hu, hu'.canonical_eq_iff.2 halike⟩)
  · exact hrepeats.differ fun heq =>
      (mem_of_mem_offerAfter hs).2.2 (List.mem_map.2 ⟨e, he, heq⟩)

/-- A crate that the query has with a blank in front of it, and a focus that it has with a sign, are
offered again. -/
theorem other_spellings_are_offered_again :
    let crate : Request :=
      { fragment := "+crate:", existing := ["+crate:\" a\""]
        catalog := { crates := [⟨"a", "a"⟩] } }
    let focus : Request :=
      { fragment := "focus:", existing := ["+focus:1"], catalog := { nodeIds := ["1"] } }
    (∀ r ∈ [crate, focus], ∀ e ∈ r.existing, tokens e = [e] ∧ (Entry.ofToken e).isValid = true) ∧
      crate.suggestions.map token = ["+crate:a"] ∧ Repeats "+crate:\" a\"" "+crate:a" ∧
      focus.suggestions.map token = ["focus:1"] ∧ Repeats "+focus:1" "focus:1" := by
  intro crate focus
  have hpick : Repeats "+crate:\" a\"" "+crate:a" := .inl ⟨.crate, .plus, "a", by decide, by decide⟩
  have hfocus : Repeats "+focus:1" "focus:1" := .inr ⟨"1", by decide, by decide⟩
  exact ⟨by decide, by decide, hpick, by decide, hfocus⟩

end Suggestion

end FilterBar
