import FilterBar.Proofs.Query.Selection
import FilterBar.Proofs.Text.Case
import FilterBar.Suggestion.Canonical

/-!
# What the canonical form keeps

A token with a colon has three parts: its sign, its key under the listed name, and its value
without quotes. The canonical form is the parts written one behind the other, and they can be told
apart in it again (`Parts.text_injective`), so that tokens with the same canonical form have the
same parts (`canonical_eq_iff`). The filter of a token is a matter of its parts too
(`filter?_ofToken`), but it takes less of them: blanks around the value do not count, nor does a
sign that the key has no use for.
-/

namespace FilterBar

namespace Text

theorem not_mem_of_cut? {mark : Char} {t a b : Text} (h : cut? mark t = some (a, b)) :
    mark ∉ a := by
  induction t generalizing a with
  | nil => cases h
  | cons c r ih =>
    by_cases hc : c = mark
    · simp only [cut?, hc, beq_self_eq_true, if_true, Option.some.injEq, Prod.mk.injEq] at h
      rw [← h.1]
      exact List.not_mem_nil
    · simp only [cut?, beq_iff_eq, hc, if_false, Option.map_eq_some_iff, Prod.mk.injEq] at h
      obtain ⟨⟨x, y⟩, hx, rfl, rfl⟩ := h
      rw [List.mem_cons, not_or]
      exact ⟨Ne.symm hc, ih hx⟩

end Text

namespace Query

variable {sign : Option Sign} {key value token a b : Text} {f : Filter}

theorem Sign.isMark_mark (s : Sign) : Text.IsMark s.mark := by
  cases s <;> decide

theorem Sign.split_of_forall_ne (h : ∀ s : Sign, token.head? ≠ some s.mark) :
    Sign.split token = (none, token) := by
  unfold Sign.split
  split
  · exact absurd rfl (h .plus)
  · exact absurd rfl (h .minus)
  · rfl

theorem Sign.head?_ne_of_split (h : (Sign.split token).1 = none) (s : Sign) :
    token.head? ≠ some s.mark := by
  intro hhead
  obtain ⟨r, rfl⟩ := List.head?_eq_some_iff.1 hhead
  cases s <;> cases h

theorem Sign.head?_ne_of_cut? {written : Text} (h : (Sign.split token).1 = none)
    (hcut : Text.cut? ':' (Sign.split token).2 = some (key, written)) (s : Sign) :
    key.head? ≠ some s.mark := by
  intro hhead
  refine head?_ne_of_split h s ?_
  have htoken := Sign.written_split token
  rw [h, Text.cut?_eq_some_append hcut] at htoken
  obtain ⟨r, rfl⟩ := List.head?_eq_some_iff.1 hhead
  rw [← htoken]
  rfl

/-! ## Listed keys -/

theorem listedKey_eq (sign : Option Sign) (key : Text) :
    listedKey sign key = key ∨
      listedKey sign key ∈ ([("node" : Text), "location", "focus"] : List Text) := by
  unfold listedKey
  split_ifs <;> simp

theorem listedKey_listedKey (sign : Option Sign) (key : Text) :
    listedKey sign (listedKey sign key) = listedKey sign key := by
  unfold listedKey
  split_ifs <;> simp_all

theorem listedKey_eq_nil_iff : listedKey sign key = [] ↔ key = [] := by
  constructor
  · intro h
    rcases listedKey_eq sign key with heq | hmem
    · exact heq ▸ h
    · rw [h] at hmem
      exact absurd hmem (by decide)
  · rintro rfl
    rfl

theorem Filter.ofKey?_listedKey (sign : Option Sign) (key value : Text) :
    Filter.ofKey? sign (listedKey sign key) value = Filter.ofKey? sign key value := by
  unfold listedKey
  split
  · next hid =>
    subst hid
    cases sign <;> rfl
  split
  · next hsource =>
    subst hsource
    cases sign <;> rfl
  split
  · next hsubgraph =>
    subst hsubgraph
    cases sign <;> rfl
  · rfl

theorem listedKey_of_ofKey? {s : Sign} {axis : Axis} (h : Axis.ofKey? key = some axis) :
    listedKey (some s) key = axis.key := by
  unfold Axis.ofKey? at h
  split at h
  · next hid =>
    subst hid
    cases h
    rfl
  split at h
  · next hsource =>
    subst hsource
    cases h
    rfl
  · have hkey : axis.key = key := by simpa using List.find?_some h
    subst hkey
    cases axis <;> rfl

/-! ## Parts -/

/-- A sign, a listed key, and a value without quotes. They can be told apart when they are written
one behind the other, as there is no colon in the key, and no sign at its head if there is none
before. -/
structure Parts where
  sign : Option Sign
  key : Text
  value : Text
  no_colon : ':' ∉ key
  unsigned : sign = none → ∀ s : Sign, key.head? ≠ some s.mark
  listed : listedKey sign key = key

theorem no_colon_listedKey (hkey : ':' ∉ key) : ':' ∉ listedKey sign (Text.lower key) := by
  rcases listedKey_eq sign (Text.lower key) with heq | hmem
  · rwa [heq, Text.mem_lower_iff (by decide)]
  · have hlisted : ∀ k ∈ ([("node" : Text), "location", "focus"] : List Text), ':' ∉ k := by decide
    exact hlisted _ hmem

theorem head?_listedKey_ne {s : Sign} (hkey : key.head? ≠ some s.mark) :
    (listedKey sign (Text.lower key)).head? ≠ some s.mark := by
  rcases listedKey_eq sign (Text.lower key) with heq | hmem
  · rw [heq]
    exact mt (Text.head?_eq_of_lower s.isMark_mark) hkey
  · have hlisted : ∀ k ∈ ([("node" : Text), "location", "focus"] : List Text),
        ∀ s ∈ Sign.all, k.head? ≠ some s.mark := by decide
    exact hlisted _ hmem s (by cases s <;> decide)

namespace Parts

def text (p : Parts) : Text := Sign.written p.sign ++ (p.key ++ ':' :: p.value)

theorem eq_of {p q : Parts} (hsign : p.sign = q.sign) (hkey : p.key = q.key)
    (hvalue : p.value = q.value) : p = q := by
  cases p
  cases q
  simp_all

theorem split_text (p : Parts) : Sign.split p.text = (p.sign, p.key ++ ':' :: p.value) := by
  rw [text]
  cases hsign : p.sign with
  | some s => cases s <;> rfl
  | none =>
    refine Sign.split_of_forall_ne fun s hhead => ?_
    rw [Sign.written, List.nil_append] at hhead
    cases hkey : p.key with
    | nil =>
      rw [hkey] at hhead
      cases s <;> cases hhead
    | cons c r =>
      refine p.unsigned hsign s ?_
      rw [hkey] at hhead ⊢
      exact hhead

theorem text_injective : Function.Injective text := by
  intro p q h
  have hsplit := congrArg Sign.split h
  rw [split_text, split_text, Prod.mk.injEq] at hsplit
  have hcut := congrArg (Text.cut? ':') hsplit.2
  rw [Text.cut?_append_mark p.no_colon, Text.cut?_append_mark q.no_colon, Option.some.injEq,
    Prod.mk.injEq] at hcut
  exact eq_of hsplit.1 hcut.1 hcut.2

def of? (token : Text) : Option Parts :=
  match h : Text.cut? ':' (Sign.split token).2 with
  | none => none
  | some (key, written) => some
    { sign := (Sign.split token).1
      key := listedKey (Sign.split token).1 (Text.lower key)
      value := unquote written
      no_colon := no_colon_listedKey (Text.not_mem_of_cut? h)
      unsigned := fun hsign s =>
        head?_listedKey_ne (Sign.head?_ne_of_cut? hsign h s)
      listed := listedKey_listedKey _ _ }

theorem canonical_of_none (h : of? token = none) : canonical token = token := by
  unfold of? at h
  split at h
  · next hcut => simp only [canonical, hcut]
  · cases h

theorem canonical_of_some {p : Parts} (h : of? token = some p) : canonical token = p.text := by
  unfold of? at h
  split at h
  · cases h
  · next hcut =>
    cases h
    simp only [canonical, hcut, text, List.append_assoc]
    rfl

theorem of?_text_ne_none (p : Parts) : of? p.text ≠ none := by
  intro h
  unfold of? at h
  split at h
  · next hcut =>
    rw [split_text, Text.cut?_append_mark p.no_colon] at hcut
    cases hcut
  · cases h

end Parts

/-- Tokens have the same canonical form just if they are the same or have the same parts. -/
theorem canonical_eq_iff :
    canonical a = canonical b ↔ a = b ∨ ∃ p, Parts.of? a = some p ∧ Parts.of? b = some p := by
  constructor
  · intro h
    cases ha : Parts.of? a with
    | none =>
      rw [Parts.canonical_of_none ha] at h
      cases hb : Parts.of? b with
      | none => exact .inl (h.trans (Parts.canonical_of_none hb))
      | some q =>
        rw [Parts.canonical_of_some hb] at h
        exact absurd (h ▸ ha) q.of?_text_ne_none
    | some p =>
      rw [Parts.canonical_of_some ha] at h
      cases hb : Parts.of? b with
      | none =>
        rw [Parts.canonical_of_none hb] at h
        exact absurd (h ▸ hb) p.of?_text_ne_none
      | some q =>
        rw [Parts.canonical_of_some hb] at h
        exact .inr ⟨p, rfl, congrArg some (Parts.text_injective h).symm⟩
  · rintro (rfl | ⟨p, ha, hb⟩)
    · rfl
    · rw [Parts.canonical_of_some ha, Parts.canonical_of_some hb]

/-! ## Reading by parts -/

def Parts.filter? (p : Parts) : Option Filter :=
  if p.key = [] ∨ Text.strip p.value = [] then none
  else Filter.ofKey? p.sign p.key (Text.strip p.value)

theorem Entry.filter?_ofToken (token : Text) :
    (ofToken token).filter? = (Parts.of? token).bind Parts.filter? := by
  unfold Parts.of?
  split
  · next hcut => simp only [filter?, ofToken, Reading.ofToken, hcut]; rfl
  · next key written hcut =>
    rw [Option.bind_some, Parts.filter?]
    simp only [listedKey_eq_nil_iff, Text.lower_eq_nil_iff, Filter.ofKey?_listedKey]
    simp only [filter?, ofToken, Reading.ofToken, hcut, List.isEmpty_iff]
    by_cases hkey : key = []
    · rw [if_pos hkey, if_pos (.inl hkey)]
      rfl
    by_cases hvalue : Text.strip (unquote written) = []
    · rw [if_neg hkey, if_pos hvalue, if_pos (.inr hvalue)]
      rfl
    · rw [if_neg hkey, if_neg hvalue, if_neg (not_or.2 ⟨hkey, hvalue⟩)]
      cases Filter.ofKey? (Sign.split token).1 (Text.lower key) (Text.strip (unquote written)) <;>
        rfl

theorem Entry.filter?_eq_of_canonical_eq (h : canonical a = canonical b) :
    (ofToken a).filter? = (ofToken b).filter? := by
  rcases canonical_eq_iff.1 h with rfl | ⟨p, ha, hb⟩
  · rfl
  · rw [filter?_ofToken, filter?_ofToken, ha, hb]

theorem Filter.Spelt.of_pick {axis : Axis} {s : Sign} {v : Text}
    (h : Spelt sign value key (.pick ⟨axis, s, v⟩)) :
    sign = some s ∧ Axis.ofKey? key = some axis ∧ value = v := by
  cases h with
  | pick hs ha => exact ⟨hs, ha, rfl⟩

theorem Filter.Spelt.of_focus {v : Text} (h : Spelt sign value key (.focus v)) :
    (key = "focus" ∨ key = "subgraph") ∧ value = v := by
  cases h with
  | focus hk => exact ⟨hk, rfl⟩

namespace Parts

variable {p : Parts}

theorem spelt_of_filter? (h : p.filter? = some f) :
    Filter.Spelt p.sign (Text.strip p.value) p.key f := by
  unfold filter? at h
  split at h
  · cases h
  · exact Filter.spelt_of_ofKey? h

theorem of_filter?_pick {axis : Axis} {s : Sign} {v : Text}
    (h : p.filter? = some (.pick ⟨axis, s, v⟩)) :
    p.sign = some s ∧ p.key = axis.key ∧ Text.strip p.value = v := by
  obtain ⟨hs, ha, hv⟩ := (spelt_of_filter? h).of_pick
  have hlisted := p.listed
  rw [hs, listedKey_of_ofKey? ha] at hlisted
  exact ⟨hs, hlisted.symm, hv⟩

/-- A focus has no use for the sign of the parts. -/
theorem of_filter?_focus {v : Text} (h : p.filter? = some (.focus v)) :
    p.key = "focus" ∧ Text.strip p.value = v := by
  obtain ⟨hk, hv⟩ := (spelt_of_filter? h).of_focus
  refine ⟨hk.resolve_right fun hsubgraph => ?_, hv⟩
  have hlisted := p.listed
  rw [hsubgraph] at hlisted
  -- It is the other name of the focus that is listed.
  have hother : listedKey p.sign "subgraph" = "focus" := rfl
  exact absurd (hother.symm.trans hlisted) (by decide)

end Parts

end Query

end FilterBar
