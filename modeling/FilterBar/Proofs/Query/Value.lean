import FilterBar.Proofs.Query.Join
import FilterBar.Query.Selection
import FilterBar.Suggestion.Completion

/-!
# Values read back

A value goes into a query bare or between double quotes, behind a key and a colon. Either way it is
one token, and the value of the token is the value that was written, but for blanks at its ends
(`tokens_written`, `ofToken_written`). What the token selects is then a matter of its key alone:
`Selects` says it, and `quoted_value_selects` that it holds of the axis keys and of `focus`.

The way from a value to its token and back is split at the two places where a value can look
different: `IsWritten`, how it is written in the query, and `Spells`, how it stands in the token.
-/

namespace FilterBar.Query

open Scan (plain)

variable {v w t : Text}

/-! ## Characters without a meaning of their own -/

/-- Neither a blank nor one of the two characters that a scan heeds. -/
def Inert (c : Char) : Prop := Text.isBlank c = false ∧ c ≠ '"' ∧ c ≠ '\\'

instance (c : Char) : Decidable (Inert c) := inferInstanceAs (Decidable (_ ∧ _))

theorem tidy_of_forall_not_blank (hne : t ≠ []) (h : ∀ c ∈ t, Text.isBlank c = false) :
    Text.Tidy t where
  ne_nil := hne
  head c hc := h c (List.mem_of_mem_head? hc)
  last c hc := h c (List.mem_of_mem_getLast? hc)

theorem after_of_inert (h : ∀ c ∈ t, Inert c) : plain.after t = plain := by
  induction t with
  | nil => rfl
  | cons c r ih =>
    obtain ⟨-, hq, hb⟩ := h c (by simp)
    have hstep : plain.step c = plain := by simp [Scan.step, plain, hq, hb]
    rw [Scan.after_cons, hstep, ih fun d hd => h d (by simp [hd])]

theorem whole_of_inert (hne : t ≠ []) (h : ∀ c ∈ t, Inert c) : Whole t where
  tidy := tidy_of_forall_not_blank hne fun c hc => (h c hc).1
  covers := Scan.covers_of_forall_not_blank fun c hc => (h c hc).1
  closed := after_of_inert h

/-! ## Between double quotes -/

/-- Inside a quotation and after no backslash. -/
def Scan.within : Scan := { quoted := true }

theorem Scan.step_plain_quote : plain.step '"' = within := rfl

/-- An escaped value does not close the quotation that it stands in. -/
theorem within_escape (v : Text) :
    Scan.within.Covers (escape v) ∧ Scan.within.after (escape v) = Scan.within := by
  induction v with
  | nil => exact ⟨rfl, rfl⟩
  | cons c r ih =>
    by_cases h : c = '\\' ∨ c = '"'
    · -- The backslash takes the heed off the character behind it.
      have hstep : (Scan.within.step '\\').step c = Scan.within := rfl
      simp only [escape, h, if_true, Scan.covers_cons, Scan.after_cons, hstep]
      exact ⟨⟨rfl, rfl, ih.1⟩, ih.2⟩
    · have hstep : Scan.within.step c = Scan.within := by
        simp [Scan.step, Scan.within, not_or.1 h]
      simp only [escape, h, if_false, Scan.covers_cons, Scan.after_cons, hstep]
      exact ⟨⟨rfl, ih.1⟩, ih.2⟩

theorem tidy_enquote (v : Text) : Text.Tidy (enquote v) where
  ne_nil := by simp [enquote]
  head c hc := by
    cases hc
    rfl
  last c hc := by
    rw [enquote, List.getLast?_concat] at hc
    cases hc
    rfl

theorem covers_enquote (v : Text) : plain.Covers (enquote v) := by
  obtain ⟨hcov, hafter⟩ := within_escape v
  rw [enquote, List.cons_append, Scan.covers_cons, Scan.step_plain_quote, Scan.covers_append, hafter]
  exact ⟨rfl, hcov, rfl⟩

theorem whole_enquote (v : Text) : Whole (enquote v) where
  tidy := tidy_enquote v
  covers := covers_enquote v
  closed := by
    rw [Closed, enquote, List.cons_append, Scan.after_cons, Scan.step_plain_quote,
      Scan.after_append, (within_escape v).2]
    rfl

theorem unquote_enquote (v : Text) : unquote (enquote v) = v := by
  rw [unquote, (tidy_enquote v).strip_eq]
  simp [enquote, unescape_escape]

theorem unquote_of_ne_quote {c : Char} {r : Text} (h : Text.Tidy (c :: r)) (hc : c ≠ '"') :
    unquote (c :: r) = c :: r := by
  rw [unquote, h.strip_eq]
  split
  · next heq => exact absurd (List.cons.inj heq).1 hc
  · rfl

/-! ## Written values -/

/-- How a value is written: as it is if that is possible, or between double quotes. -/
inductive IsWritten (v : Text) : Text → Prop
  | bare : isBare v = true → IsWritten v v
  | quoted : IsWritten v (enquote v)

theorem isWritten_quote (v : Text) : IsWritten v (quote v) := by
  unfold quote
  split
  · next h => exact .bare h
  · exact .quoted

theorem isWritten_writtenLocation (v : Text) : IsWritten v (Suggestion.writtenLocation v) := by
  unfold Suggestion.writtenLocation
  split
  · exact .quoted
  · exact isWritten_quote v

/-- What a token holds of a written value. -/
structure Spells (t v : Text) : Prop where
  tidy : Text.Tidy t
  covers : plain.Covers t
  value : Text.strip (unquote t) = Text.strip v

theorem forall_of_isBare (h : isBare v = true) (hlast : v.getLast? ≠ some '\n') :
    v ≠ [] ∧ ∀ c ∈ v, Text.isBlank c = false ∧ c ≠ '"' := by
  have hdrop : dropFinalLineFeed v = v := by simp [dropFinalLineFeed, hlast]
  simpa [isBare, hdrop] using h

/-- A bare value has characters that are neither blanks nor double quotes, and a line feed behind
them at most. -/
theorem exists_of_isBare (h : isBare v = true) :
    ∃ t w, v = t ++ w ∧ t ≠ [] ∧ (∀ c ∈ t, Text.isBlank c = false ∧ c ≠ '"') ∧
      ∀ c ∈ w, Text.isBlank c = true := by
  by_cases hlast : v.getLast? = some '\n'
  · obtain ⟨t, rfl⟩ := List.getLast?_eq_some_iff.1 hlast
    have hdrop : dropFinalLineFeed (t ++ ['\n']) = t := by simp [dropFinalLineFeed]
    have hchars : t ≠ [] ∧ ∀ c ∈ t, Text.isBlank c = false ∧ c ≠ '"' := by
      simpa [isBare, hdrop] using h
    exact ⟨t, ['\n'], rfl, hchars.1, hchars.2, by simp; decide⟩
  · obtain ⟨hne, hchars⟩ := forall_of_isBare h hlast
    exact ⟨v, [], (List.append_nil v).symm, hne, hchars, by simp⟩

theorem exists_spells (h : IsWritten v w) :
    ∃ t b, w = t ++ b ∧ Spells t v ∧ ∀ c ∈ b, Text.isBlank c = true := by
  cases h with
  | bare hbare =>
    obtain ⟨t, b, rfl, hne, ht, hb⟩ := exists_of_isBare hbare
    have hletters : ∀ c ∈ t, Text.isBlank c = false := fun c hc => (ht c hc).1
    have htidy := tidy_of_forall_not_blank hne hletters
    refine ⟨t, b, rfl, ⟨htidy, Scan.covers_of_forall_not_blank hletters, ?_⟩, hb⟩
    obtain ⟨c, r, rfl⟩ := List.exists_cons_of_ne_nil hne
    rw [unquote_of_ne_quote htidy (ht c (by simp)).2, htidy.strip_append hb, htidy.strip_eq]
  | quoted =>
    have hvalue : Text.strip (unquote (enquote v)) = Text.strip v := by rw [unquote_enquote]
    exact ⟨enquote v, [], by simp, ⟨tidy_enquote v, covers_enquote v, hvalue⟩, by simp⟩

/-! ## Tokens with a written value -/

theorem tokens_written {front : Text} (hne : front ≠ []) (hf : ∀ c ∈ front, Inert c)
    (h : IsWritten v w) : ∃ t, Spells t v ∧ tokens (front ++ w) = [front ++ t] := by
  obtain ⟨t, b, rfl, hspells, hb⟩ := exists_spells h
  have hfront := whole_of_inert hne hf
  refine ⟨t, hspells, ?_⟩
  rw [← List.append_assoc]
  refine tokens_append_blanks (hfront.tidy.append hspells.tidy) ?_ hb
  exact Scan.covers_append.2 ⟨hfront.covers, by rw [hfront.after_eq]; exact hspells.covers⟩

theorem ofToken_written {sign : Option Sign} {key : Text} (hne : key ≠ []) (hcolon : ':' ∉ key)
    (hsign : ∀ r, Sign.split (Sign.written sign ++ (key ++ r)) = (sign, key ++ r))
    (h : Spells t v) :
    Reading.ofToken (Sign.written sign ++ (key ++ ':' :: t)) =
      if Text.strip v = [] then .valueless key
      else (Filter.ofKey? sign (Text.lower key) (Text.strip v)).elim
        (.refused key (Text.strip v)) (.accepted key (Text.strip v)) := by
  simp only [Reading.ofToken, hsign, Text.cut?_append_mark hcolon, h.value, List.isEmpty_iff, hne, if_false]
  split
  · rfl
  · cases Filter.ofKey? sign (Text.lower key) (Text.strip v) <;> rfl

/-! ## What a token selects -/

/-- Whether a value is there and not the template of one. -/
def IsValue (v : Text) : Prop := v ≠ [] ∧ isTemplate v = false

instance (v : Text) : Decidable (IsValue v) := inferInstanceAs (Decidable (_ ∧ _))

/-- The query is one token with this key and value. It makes the selection if the value is one, and
none otherwise. -/
structure Selects (query key value : Text) (chosen : Selection) : Prop where
  entry : ∃ e, entries query = [e] ∧ e.reading.key? = some key ∧ e.reading.value? = some value ∧
    (e.isValid = true ↔ IsValue value)
  selection : selection query = if IsValue value then chosen else .empty

/-- A key that stands for a filter on any value that is one. -/
structure Takes (sign : Option Sign) (key : Text) (filter : Text → Filter) : Prop where
  ne_nil : key ≠ []
  inert : key.all (Inert ·) = true
  no_colon : ':' ∉ key
  split : ∀ r, Sign.split (Sign.written sign ++ (key ++ r)) = (sign, key ++ r)
  ofKey? : ∀ value, Filter.ofKey? sign (Text.lower key) value =
    if isTemplate value then none else some (filter value)

theorem inert_written (sign : Option Sign) : ∀ c ∈ Sign.written sign, Inert c := by
  rcases sign with _ | ⟨_ | _⟩ <;> simp [Sign.written, Sign.mark] <;> decide

theorem Takes.reading {sign : Option Sign} {key : Text} {filter : Text → Filter}
    (hkey : Takes sign key filter) (h : Spells t v) :
    let r := Reading.ofToken (Sign.written sign ++ (key ++ ':' :: t))
    r.key? = some key ∧ r.value? = some (Text.strip v) ∧
      r.filter? = if IsValue (Text.strip v) then some (filter (Text.strip v)) else none := by
  rw [ofToken_written hkey.ne_nil hkey.no_colon hkey.split h, hkey.ofKey?]
  by_cases hnil : Text.strip v = []
  · simp [hnil, IsValue, Reading.key?, Reading.value?, Reading.filter?]
  · cases htemplate : isTemplate (Text.strip v) <;>
      simp [hnil, htemplate, IsValue, Reading.key?, Reading.value?, Reading.filter?]

theorem Takes.selects {sign : Option Sign} {key : Text} {filter : Text → Filter}
    (hkey : Takes sign key filter) (h : IsWritten v w) :
    Selects (Sign.written sign ++ (key ++ ':' :: w)) key (Text.strip v)
      (Selection.empty.add (filter (Text.strip v))) := by
  have hfront : ∀ c ∈ Sign.written sign ++ (key ++ [':']), Inert c := by
    simp only [List.mem_append, List.mem_singleton]
    rintro c (hc | hc | rfl)
    · exact inert_written sign c hc
    · exact of_decide_eq_true (List.all_eq_true.1 hkey.inert c hc)
    · decide
  obtain ⟨t, hspells, htokens⟩ := tokens_written (by simp) hfront h
  obtain ⟨hk, hv, hf⟩ := hkey.reading hspells
  have hentries : entries (Sign.written sign ++ (key ++ ':' :: w)) =
      [Entry.ofToken (Sign.written sign ++ (key ++ ':' :: t))] := by
    simp only [List.append_assoc, List.singleton_append] at htokens
    rw [entries, htokens]
    rfl
  refine ⟨⟨_, hentries, hk, hv, ?_⟩, ?_⟩
  · simp only [Entry.isValid, Entry.filter?, Entry.ofToken, hf]
    split <;> simp_all
  · simp only [selection, Selection.ofEntries, hentries, List.filterMap_cons, List.filterMap_nil,
      Entry.filter?, Entry.ofToken, hf]
    by_cases hvalue : IsValue (Text.strip v)
    · simp only [hvalue, if_true, List.foldl_cons, List.foldl_nil]
    · simp only [hvalue, if_false, List.foldl_nil]

/-! ## Axis keys and the focus -/

def axisKeys : List Text := Axis.all.map Axis.key ++ [("id" : Text), "source"]

theorem mem_axisKeys {key : Text} {axis : Axis} (h : Axis.ofKey? key = some axis) :
    key ∈ axisKeys := by
  unfold Axis.ofKey? at h
  split at h
  · next hk => subst hk; decide
  · split at h
    · next hk => subst hk; decide
    · have hmem := List.mem_of_find?_eq_some h
      have heq : axis.key = key := by simpa using List.find?_some h
      exact List.mem_append_left _ (heq ▸ List.mem_map_of_mem hmem)

theorem plain_axisKeys : ∀ key ∈ axisKeys,
    key ≠ [] ∧ key.all (Inert ·) = true ∧ ':' ∉ key ∧ Text.lower key = key := by
  decide

theorem takes_pick {key : Text} {axis : Axis} (h : Axis.ofKey? key = some axis) (sign : Sign) :
    Takes (some sign) key fun value => .pick ⟨axis, sign, value⟩ := by
  obtain ⟨hne, hinert, hcolon, hlower⟩ := plain_axisKeys key (mem_axisKeys h)
  refine ⟨hne, hinert, hcolon, fun r => ?_, fun value => ?_⟩
  · cases sign <;> rfl
  · simp only [hlower, Filter.ofKey?, h]

theorem takes_focus : Takes none "focus" .focus where
  ne_nil := by decide
  inert := by decide
  no_colon := by decide
  split r := rfl
  ofKey? value := by
    have hlower : Text.lower "focus" = "focus" := by decide
    rw [hlower]
    rfl

theorem bucket_singleton (axis : Axis) (sign : Sign) (value : Text) (a : Axis) (s : Sign) :
    Selection.bucket { picks := [⟨axis, sign, value⟩] } a s =
      if a = axis ∧ s = sign then [value] else [] := by
  by_cases h : a = axis ∧ s = sign
  · simp [Selection.bucket, h]
  · have h' : ¬ (axis = a ∧ sign = s) := fun hs => h ⟨hs.1.symm, hs.2.symm⟩
    simp [Selection.bucket, h, h']

/-- A quoted value behind an axis key with a sign is one token that holds the value, and the query
picks nothing else. It is refused just if the value is empty or a template. The same is true of a
location that is quoted for its colon, and of a quoted value behind `focus`. -/
theorem quoted_value_selects (v : Text) {key : Text} {axis : Axis}
    (hkey : Axis.ofKey? key = some axis) (sign : Sign) :
    let value := Text.strip v
    let picked : Selection := { picks := [⟨axis, sign, value⟩] }
    Selects (sign.mark :: (key ++ ':' :: quote v)) key value picked ∧
      (axis = .location →
        Selects (sign.mark :: (key ++ ':' :: Suggestion.writtenLocation v)) key value picked) ∧
      (∀ a s, picked.bucket a s = if a = axis ∧ s = sign then [value] else []) ∧
      Selects (("focus:" : Text) ++ quote v) "focus" value { focused := some value } := by
  intro value picked
  have hpick := takes_pick hkey sign
  exact ⟨hpick.selects (isWritten_quote v), fun _ => hpick.selects (isWritten_writtenLocation v),
    bucket_singleton axis sign value, takes_focus.selects (isWritten_quote v)⟩

/-- A location with a colon, behind the other key of its axis. -/
theorem quoted_location_selects :
    Axis.ofKey? "source" = some .location ∧
      Suggestion.writtenLocation "a\\b:7\n" = "\"a\\\\b:7\n\"" ∧
      Selects "-source:\"a\\\\b:7\n\"" "source" "a\\b:7"
        { picks := [⟨.location, .minus, "a\\b:7"⟩] } := by
  have hkey : Axis.ofKey? "source" = some .location := by decide
  exact ⟨hkey, by decide, (quoted_value_selects "a\\b:7\n" hkey .minus).2.1 rfl⟩

end FilterBar.Query
