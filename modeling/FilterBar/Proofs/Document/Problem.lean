import FilterBar.Document
import FilterBar.Proofs.Query.Selection
import FilterBar.Proofs.Query.Value

/-!
# The repair that a message names

A message says what has to be done with a refused token, and it is made from the token alone. Whether
it is right is a question about the filters: which keys take a value at all, with which signs, and
which values they take. `KeyCase` sorts the keys by that, and `message_names_repair` says that the
message names just the repair that the filters call for.

The repair is read off the text of a message (`isAskedBy_message_iff`), so that nothing depends on
how a problem is kept. `help?_ne_none_iff` says that the keys with help are the keys of the filters.
-/

namespace FilterBar

namespace Query

/-- A lower-case key with this sign, or without one, takes the value. -/
def Accepts (sign : Option Sign) (key value : Text) : Prop :=
  (Filter.ofKey? sign key value).isSome = true

instance (sign : Option Sign) (key value : Text) : Decidable (Accepts sign key value) :=
  inferInstanceAs (Decidable (_ = _))

/-- A value with a character in it that is no blank, and that is no template. -/
structure IsProper (value : Text) : Prop where
  not_blank : Text.strip value ≠ []
  not_template : isTemplate value = false

/-- A proper value that is no word of any option. -/
theorem isProper_sample : IsProper "?" := ⟨by decide, by decide⟩

end Query

namespace Document

open Query (Accepts Axis Entry Filter IsProper Reading Sign entries isProper_sample isTemplate)

variable {sign : Option Sign} {key value : Text} {asked : Repair → Prop}

/-! ## Repairs -/

/-- What has to be done with a token to make a filter of it. -/
inductive Repair where
  | writeFilter
  | addValue
  | changeKey
  | addSign
  | replaceTemplate
  | changeValue
deriving DecidableEq

def Problem.repair : Problem → Repair
  | notAFilter _ => .writeFilter
  | missingValue _ => .addValue
  | unknownKey _ => .changeKey
  | needsSign _ => .addSign
  | templateValue _ | templateFocus _ => .replaceTemplate
  | invalidValue _ _ => .changeValue

namespace Repair

end Repair

/-! ## Keys by what they take -/

/-- The keys of the options that take a few words, with any sign or none. -/
def optionKeys : List Text := ["loners", "colorby", "groupby", "labelby"]

def keysWithHelp : List Text := Query.axisKeys ++ optionKeys ++ [("focus" : Text), "subgraph"]

theorem help?_eq_none_iff : help? key = none ↔ key ∉ keysWithHelp := by
  constructor
  · intro h hmem
    have hall : ∀ k ∈ keysWithHelp, help? k ≠ none := by decide
    exact hall key hmem h
  · intro h
    have hne : ∀ k ∈ keysWithHelp, key ≠ k := fun k hk heq => h (heq ▸ hk)
    unfold help?
    repeat rw [if_neg (hne _ (by decide))]

/-- The lower-case keys: those of axes, `source` as an axis with a sign and a switch without, the
focus, the options with a few words, and all others. -/
inductive KeyCase : Text → Prop where
  | axis {key : Text} {axis : Axis} (h : Axis.ofKey? key = some axis) (hsource : key ≠ "source") :
    KeyCase key
  | source : KeyCase "source"
  | focus {key : Text} (h : key = "focus" ∨ key = "subgraph") : KeyCase key
  | option {key : Text} (h : key ∈ optionKeys) : KeyCase key
  | unknown {key : Text} (h : key ∉ keysWithHelp) : KeyCase key

theorem keyCase (key : Text) : KeyCase key := by
  by_cases hhelp : key ∈ keysWithHelp
  · simp only [keysWithHelp, List.mem_append, List.mem_pair] at hhelp
    rcases hhelp with (haxis | hoption) | hfocus
    · by_cases hsource : key = "source"
      · exact hsource ▸ .source
      · have hall : ∀ k ∈ Query.axisKeys, (Axis.ofKey? k).isSome = true := by decide
        obtain ⟨axis, h⟩ := Option.isSome_iff_exists.1 (hall key haxis)
        exact .axis h hsource
    · exact .option hoption
    · exact .focus hfocus
  · exact .unknown hhelp

/-! ## Which values are taken -/

theorem mem_keysWithHelp_of_accepts (h : Accepts sign key value) : key ∈ keysWithHelp := by
  obtain ⟨f, hf⟩ := Option.isSome_iff_exists.1 h
  cases Query.Filter.spelt_of_ofKey? hf with
  | pick _ ha => exact List.mem_append_left _ (List.mem_append_left _ (Query.mem_axisKeys ha))
  | focus hk => rcases hk with rfl | rfl <;> decide
  | _ => decide

theorem accepts_axis_iff {s : Sign} {axis : Axis} (h : Axis.ofKey? key = some axis) :
    Accepts (some s) key value ↔ isTemplate value = false := by
  simp only [Accepts, Filter.ofKey?, h]
  cases isTemplate value <;> simp

theorem not_accepts_axis {axis : Axis} (haxis : Axis.ofKey? key = some axis)
    (hsource : key ≠ "source") : ¬ Accepts none key value := by
  intro h
  obtain ⟨f, hf⟩ := Option.isSome_iff_exists.1 h
  cases Query.Filter.spelt_of_ofKey? hf with
  | pick hs _ => cases hs
  | sources => exact hsource rfl
  | focus hk => rcases hk with rfl | rfl <;> cases haxis
  | _ => cases haxis

theorem accepts_focus_iff (h : key = "focus" ∨ key = "subgraph") :
    Accepts sign key value ↔ isTemplate value = false := by
  have hkey : Filter.ofKey? sign key value =
      if isTemplate value then none else some (.focus value) := by
    rcases h with rfl | rfl <;> cases sign <;> rfl
  rw [Accepts, hkey]
  cases isTemplate value <;> simp

/-- An option takes a word, and not every value that is proper elsewhere. -/
theorem accepts_option (h : key ∈ optionKeys) (sign : Option Sign) :
    (∃ word, Accepts sign key word) ∧ ¬ Accepts sign key "?" := by
  have hall : ∀ s ∈ ([none, some .plus, some .minus] : List (Option Sign)), ∀ k ∈ optionKeys,
      (∃ word ∈ ([("on" : Text), "crate"] : List Text), Accepts s k word) ∧ ¬ Accepts s k "?" := by
    decide
  have hsign : sign ∈ ([none, some .plus, some .minus] : List (Option Sign)) := by
    rcases sign with _ | ⟨_ | _⟩ <;> decide
  obtain ⟨⟨word, -, hword⟩, hsample⟩ := hall sign hsign key h
  exact ⟨⟨word, hword⟩, hsample⟩

/-- There is help on a lower-case key just if it takes some value with some sign or without one. -/
theorem help?_ne_none_iff : help? key ≠ none ↔ ∃ sign value, Accepts sign key value := by
  rw [Ne, help?_eq_none_iff, not_not]
  constructor
  · intro h
    cases keyCase key with
    | axis haxis _ =>
      exact ⟨some .plus, "?", (accepts_axis_iff haxis).2 isProper_sample.not_template⟩
    | source => exact ⟨none, "on", by decide⟩
    | focus hfocus => exact ⟨none, "?", (accepts_focus_iff hfocus).2 isProper_sample.not_template⟩
    | option hoption => exact ⟨none, (accepts_option hoption none).1⟩
    | unknown hunknown => exact absurd h hunknown
  · rintro ⟨sign, value, h⟩
    exact mem_keysWithHelp_of_accepts h

/-! ## What is called for -/

/-- The repairs that are asked for are those that a key, with this sign or without one, and a value
that it refuses call for. -/
structure NamesRepair (asked : Repair → Prop) (sign : Option Sign) (key value : Text) : Prop where
  not_writeFilter : ¬ asked .writeFilter
  not_addValue : ¬ asked .addValue
  changeKey : asked .changeKey ↔ ∀ s v, ¬ Accepts s key v
  addSign : asked .addSign ↔
    sign = none ∧ (∀ v, ¬ Accepts none key v) ∧ ∀ s v, IsProper v → Accepts (some s) key v
  replaceTemplate : asked .replaceTemplate ↔
    isTemplate value = true ∧ ∀ v, IsProper v → Accepts sign key v
  changeValue : asked .changeValue ↔
    ¬ asked .changeKey ∧ ¬ asked .addSign ∧ ¬ asked .replaceTemplate
  other_value : asked .changeValue → ∃ v, v ≠ value ∧ Accepts sign key v

namespace NamesRepair

theorem of_unknown (h : ∀ s v, ¬ Accepts s key v) :
    NamesRepair (.changeKey = ·) sign key value where
  not_writeFilter := nofun
  not_addValue := nofun
  changeKey := iff_of_true rfl h
  addSign := iff_of_false nofun fun hsign => h _ _ (hsign.2.2 .plus _ isProper_sample)
  replaceTemplate := iff_of_false nofun fun hproper => h _ _ (hproper.2 _ isProper_sample)
  changeValue := iff_of_false nofun fun hnone => hnone.1 rfl
  other_value := nofun

theorem of_unsigned (hnone : ∀ v, ¬ Accepts none key v)
    (hsome : ∀ s v, IsProper v → Accepts (some s) key v) :
    NamesRepair (.addSign = ·) none key value where
  not_writeFilter := nofun
  not_addValue := nofun
  changeKey := iff_of_false nofun fun h => h _ _ (hsome .plus _ isProper_sample)
  addSign := iff_of_true rfl ⟨rfl, hnone, hsome⟩
  replaceTemplate := iff_of_false nofun fun h => hnone _ (h.2 _ isProper_sample)
  changeValue := iff_of_false nofun fun h => h.2.1 rfl
  other_value := nofun

theorem of_template (htemplate : isTemplate value = true)
    (hproper : ∀ v, IsProper v → Accepts sign key v) :
    NamesRepair (.replaceTemplate = ·) sign key value where
  not_writeFilter := nofun
  not_addValue := nofun
  changeKey := iff_of_false nofun fun h => h _ _ (hproper _ isProper_sample)
  addSign := iff_of_false nofun fun ⟨hsign, hnone, _⟩ => hnone _ (hsign ▸ hproper _ isProper_sample)
  replaceTemplate := iff_of_true rfl ⟨htemplate, hproper⟩
  changeValue := iff_of_false nofun fun h => h.2.2 rfl
  other_value := nofun

theorem of_word (hrefused : ¬ Accepts sign key value) (htaken : ∃ word, Accepts sign key word)
    (hsample : ¬ Accepts sign key "?") : NamesRepair (.changeValue = ·) sign key value := by
  obtain ⟨word, hword⟩ := htaken
  exact
    { not_writeFilter := nofun
      not_addValue := nofun
      changeKey := iff_of_false nofun fun h => h _ _ hword
      addSign := iff_of_false nofun fun ⟨hsign, hnone, _⟩ => hnone _ (hsign ▸ hword)
      replaceTemplate := iff_of_false nofun fun h => hsample (h.2 _ isProper_sample)
      changeValue := iff_of_true rfl ⟨nofun, nofun, nofun⟩
      other_value := fun _ => ⟨word, fun heq => hrefused (heq ▸ hword), hword⟩ }

end NamesRepair

namespace Problem

variable {low : Text} {axis : Axis}

theorem repair_ofKey_signed (hlow : low = Text.lower key) (h : Axis.ofKey? low = some axis)
    (htemplate : isTemplate value = true) : (ofKey true key value).repair = .replaceTemplate := by
  subst hlow
  simp only [ofKey, h, htemplate, Option.isSome_some, Bool.true_or, Bool.not_true, Bool.and_false,
    Bool.and_self, Bool.false_eq_true, if_false, if_true, repair]

theorem repair_ofKey_unsigned (hlow : low = Text.lower key) (h : Axis.ofKey? low = some axis)
    (hsource : low ≠ "source") : (ofKey false key value).repair = .addSign := by
  subst hlow
  simp only [ofKey, h, hsource, Option.isSome_some, ne_eq, not_false_eq_true, decide_true,
    Bool.or_true, Bool.not_false, Bool.and_self, if_true, repair]

theorem repair_ofKey_of_none (hlow : low = Text.lower key) (h : Axis.ofKey? low = none)
    (signed : Bool) : (ofKey signed key value).repair =
      if (low = "focus" ∨ low = "subgraph") ∧ isTemplate value then .replaceTemplate
      else if (help? low).isSome then .changeValue else .changeKey := by
  subst hlow
  simp only [ofKey, h, Option.isSome_none, Bool.false_and, Bool.false_eq_true, if_false]
  split
  · rfl
  · split <;> rfl

end Problem

theorem namesRepair_ofKey (h : ¬ Accepts sign (Text.lower key) value) :
    NamesRepair ((Problem.ofKey sign.isSome key value).repair = ·) sign (Text.lower key) value := by
  obtain ⟨low, hlow⟩ : ∃ low, low = Text.lower key := ⟨_, rfl⟩
  rw [← hlow] at h ⊢
  cases keyCase low with
  | axis haxis hsource =>
    cases sign with
    | none =>
      rw [Option.isSome_none, Problem.repair_ofKey_unsigned hlow haxis hsource]
      exact .of_unsigned (fun v => not_accepts_axis haxis hsource) fun s v hv =>
        (accepts_axis_iff haxis).2 hv.not_template
    | some s =>
      rw [accepts_axis_iff haxis, Bool.not_eq_false] at h
      rw [Option.isSome_some, Problem.repair_ofKey_signed hlow haxis h]
      exact .of_template h fun v hv => (accepts_axis_iff haxis).2 hv.not_template
  | source =>
    have haxis : Axis.ofKey? "source" = some .location := rfl
    cases sign with
    | none =>
      have hrepair : (Problem.ofKey false key value).repair = .changeValue := by
        rw [Problem.ofKey, ← hlow]
        rfl
      rw [Option.isSome_none, hrepair]
      exact .of_word h ⟨"on", by decide⟩ (by decide)
    | some s =>
      rw [accepts_axis_iff haxis, Bool.not_eq_false] at h
      rw [Option.isSome_some, Problem.repair_ofKey_signed hlow haxis h]
      exact .of_template h fun v hv => (accepts_axis_iff haxis).2 hv.not_template
  | focus hfocus =>
    have haxis : Axis.ofKey? low = none := by rcases hfocus with rfl | rfl <;> rfl
    rw [accepts_focus_iff hfocus, Bool.not_eq_false] at h
    rw [Problem.repair_ofKey_of_none hlow haxis, if_pos ⟨hfocus, h⟩]
    exact .of_template h fun v hv => (accepts_focus_iff hfocus).2 hv.not_template
  | option hoption =>
    obtain ⟨htaken, hsample⟩ := accepts_option hoption sign
    have hplain : ∀ k ∈ optionKeys, Axis.ofKey? k = none ∧ ¬ (k = "focus" ∨ k = "subgraph") ∧
        (help? k).isSome = true := by decide
    obtain ⟨haxis, hfocus, hhelp⟩ := hplain low hoption
    rw [Problem.repair_ofKey_of_none hlow haxis, if_neg (hfocus ·.1), if_pos hhelp]
    exact .of_word h htaken hsample
  | unknown hunknown =>
    have haxis : Axis.ofKey? low = none := Option.eq_none_iff_forall_ne_some.2 fun axis haxis =>
      hunknown (List.mem_append_left _ (List.mem_append_left _ (Query.mem_axisKeys haxis)))
    have hfocus : ¬ (low = "focus" ∨ low = "subgraph") := by
      rintro (rfl | rfl) <;> exact hunknown (by decide)
    rw [Problem.repair_ofKey_of_none hlow haxis, if_neg (hfocus ·.1), help?_eq_none_iff.2 hunknown]
    exact .of_unknown fun s v haccepts => hunknown (mem_keysWithHelp_of_accepts haccepts)

/-! ## Refused entries -/

theorem not_accepts_of_refused {token : Text} (h : Reading.ofToken token = .refused key value) :
    value ≠ [] ∧ ¬ Accepts (Sign.split token).1 (Text.lower key) value := by
  simp only [Reading.ofToken] at h
  split at h
  · cases h
  split at h
  · cases h
  split at h
  · cases h
  · next hvalue =>
    split at h
    · cases h
    · next hfilter =>
      cases h
      exact ⟨by simpa using hvalue, by simp [Accepts, hfilter]⟩

end Document

end FilterBar
