import FilterBar.Proofs.Match
import FilterBar.Proofs.Query.Value
import FilterBar.Proofs.Text.Case

/-!
# What suggestions look like

The fragment decides which candidates there are, but each of them has one of four forms: a sign, a
key with a template that is still to be filled in, a display option with one of its words, or a token
that is built from an id of the catalog. `form_of_mem_candidates` goes through the branches once, and
everything about suggestions follows from the form.

Ids are arbitrary texts. That a token which is built from one reads back as one entry is what quoting
is for, and `suggestions_read` says so for every request. It says too what is left to go wrong: an id
that is blank or a template itself is refused.
-/

namespace FilterBar

open Query

variable {c : Catalog} {s : Suggestion} {r : Request}

/-! ## Tokens from a catalog -/

/-- The ids that stand for values of an axis. A node is known by entity too. -/
def Catalog.ids (c : Catalog) : Axis → List Text
  | .node => c.nodeIds ++ (c.entities.getD []).map Entity.id
  | .location => c.locations
  | .crate => c.crates.map Item.id
  | .process => c.processes.map Item.id
  | .kind => c.kinds.map Item.id
  | .module => c.modules.map Item.id

theorem Catalog.mem_ids_of_mem_entities {e : Entity} (h : e ∈ c.entities.getD []) :
    e.id ∈ c.ids .node :=
  List.mem_append_right _ (List.mem_map_of_mem h)

namespace Suggestion

/-- How an id is written behind the key of its axis. -/
def writtenId : Axis → Text → Text
  | .location => writtenLocation
  | _ => quote

theorem isWritten_writtenId (axis : Axis) (id : Text) : IsWritten id (writtenId axis id) := by
  cases axis with
  | location => exact isWritten_writtenLocation id
  | _ => exact isWritten_quote id

/-- The tokens that are built from an id of the catalog. -/
inductive BuiltFrom (c : Catalog) (id : Text) : Text → Prop
  | pick {axis : Axis} (sign : Sign) (h : id ∈ c.ids axis) :
    BuiltFrom c id (sign.mark :: (axis.key ++ ':' :: writtenId axis id))
  | focus (h : id ∈ c.ids .node) : BuiltFrom c id ("focus:" ++ quote id)

/-- The display options with their words. -/
def settings : List Text :=
  (controls.filter fun s => s.stage = none).map Suggestion.token ++ [("groupBy:none" : Text)]

/-! ## Four forms -/

inductive Form (c : Catalog) (s : Suggestion) : Prop
  | sign (sign : Sign) (token : s.token = [sign.mark]) (stage : s.stage = none)
  | placeholder {stage : Text} (stage_eq : s.stage = some stage)
    (colon : stage.getLast? = some ':') (opens : stage <+: s.token)
  | setting (mem : s.token ∈ settings) (stage : s.stage = none)
  | built {id : Text} (built : BuiltFrom c id s.token) (stage : s.stage = none)

theorem form_of_mem_axisKeys {sign : Text} (h : s ∈ axisKeys sign) : Form c s := by
  obtain ⟨axis, -, rfl⟩ := List.mem_map.1 h
  refine .placeholder rfl ?_ (List.prefix_append _ (template axis))
  exact List.getLast?_concat

theorem form_of_mem_signs (h : s ∈ signs) : Form c s := by
  simp only [signs, List.mem_cons, List.not_mem_nil, or_false] at h
  rcases h with rfl | rfl
  · exact .sign .plus rfl rfl
  · exact .sign .minus rfl rfl

theorem form_of_mem_controls (h : s ∈ controls) : Form c s := by
  by_cases hstage : s.stage = none
  · refine .setting (List.mem_append_left _ ?_) hstage
    exact List.mem_map_of_mem (List.mem_filter.2 ⟨h, by simpa using hstage⟩)
  · -- The focus is the only one whose value is still to be typed.
    have hfocus : ∀ s ∈ controls, s.stage ≠ none →
        s.stage = some "focus:" ∧ ("focus:" : Text) <+: s.token := by decide
    obtain ⟨hstage, hopens⟩ := hfocus s h hstage
    exact .placeholder hstage (by decide) hopens

theorem form_of_mem_keys (h : s ∈ keys) : Form c s := by
  simp only [keys, List.mem_append] at h
  rcases h with (h | h) | h
  · exact form_of_mem_axisKeys h
  · exact form_of_mem_axisKeys h
  · exact form_of_mem_controls h

theorem form_of_mem_ofSwitch {key value : Text} {describe : Bool → Text} {limit : Int}
    (hkey : ∀ on, key ++ ":" ++ switchName on ∈ settings)
    (h : s ∈ ofSwitch key describe value limit) : Form c s := by
  obtain ⟨on, -, rfl⟩ := List.mem_map.1 h
  exact .setting (hkey on) rfl

theorem form_of_mem_ofModes {key purpose : Text} {names : List Text} {value : Text} {limit : Int}
    (hnames : ∀ name ∈ names, key ++ ":" ++ name ∈ settings)
    (h : s ∈ ofModes key purpose names value limit) : Form c s := by
  obtain ⟨name, hname, rfl⟩ := List.mem_map.1 h
  exact .setting (hnames name (Match.mem_of_mem_best hname)) rfl

theorem form_of_mem_ofEntity {e : Entity} (he : e.id ∈ c.ids .node) (h : s ∈ ofEntity e) :
    Form c s := by
  simp only [ofEntity, List.mem_cons, List.not_mem_nil, or_false] at h
  rcases h with rfl | rfl | rfl
  · exact .built (.focus he) rfl
  · exact .built (.pick .plus he) rfl
  · exact .built (.pick .minus he) rfl

end Suggestion

namespace Request

open Suggestion

theorem exists_id_of_mem_axisCandidates {sign : Sign} {axis : Axis} {value : Text}
    (h : s ∈ r.axisCandidates [sign.mark] axis value) :
    s.stage = none ∧ ∃ id ∈ r.catalog.ids axis,
      s.token = sign.mark :: (axis.key ++ ':' :: writtenId axis id) := by
  cases axis with
  | node =>
    obtain ⟨id, hid, rfl⟩ := List.mem_map.1 h
    exact ⟨rfl, id, List.mem_append_left _ (Match.mem_of_mem_best hid), rfl⟩
  | location =>
    obtain ⟨id, hid, rfl⟩ := List.mem_map.1 h
    exact ⟨rfl, id, Match.mem_of_mem_best hid, rfl⟩
  | _ =>
    obtain ⟨i, hi, rfl⟩ := List.mem_map.1 h
    exact ⟨rfl, i.id, List.mem_map_of_mem (Match.mem_of_mem_best hi), rfl⟩

theorem form_of_mem_axisCandidates {sign : Sign} {axis : Axis} {value : Text}
    (h : s ∈ r.axisCandidates [sign.mark] axis value) : Form r.catalog s := by
  obtain ⟨hstage, id, hid, htoken⟩ := exists_id_of_mem_axisCandidates h
  have hbuilt : BuiltFrom r.catalog id s.token := by
    rw [htoken]
    exact .pick sign hid
  exact .built hbuilt hstage

theorem form_of_mem_focusCandidates {value : Text} (h : s ∈ r.focusCandidates value) :
    Form r.catalog s := by
  unfold focusCandidates at h
  split at h
  · next e es hentities =>
    obtain ⟨e', he, rfl⟩ := List.mem_map.1 h
    have hmem : e' ∈ r.catalog.entities.getD [] := by
      rw [hentities]
      exact Match.mem_of_mem_best he
    exact .built (.focus (Catalog.mem_ids_of_mem_entities hmem)) rfl
  · obtain ⟨id, hid, rfl⟩ := List.mem_map.1 h
    exact .built (.focus (List.mem_append_left _ (Match.mem_of_mem_best hid))) rfl

theorem form_of_mem_controlCandidates {key value : Text} {found : List Suggestion}
    (hfound : r.controlCandidates? key value = some found) (h : s ∈ found) : Form r.catalog s := by
  unfold controlCandidates? at hfound
  split at hfound
  · next hkey =>
    cases hfound
    subst hkey
    exact form_of_mem_ofSwitch (by decide) h
  split at hfound
  · next hkey =>
    cases hfound
    subst hkey
    exact form_of_mem_ofSwitch (by decide) h
  split at hfound
  · cases hfound
    exact form_of_mem_ofModes (by decide) h
  split at hfound
  · cases hfound
    exact form_of_mem_ofModes (by decide) h
  split at hfound
  · cases hfound
    exact form_of_mem_ofModes (by decide) h
  split at hfound
  · cases hfound
    exact form_of_mem_focusCandidates h
  · cases hfound

theorem form_of_mem_keyCandidates {fragment : Text} (h : s ∈ r.keyCandidates fragment) :
    Form r.catalog s := by
  unfold keyCandidates at h
  split at h
  · exact form_of_mem_axisKeys (Match.mem_of_mem_best h)
  split at h
  · rcases List.mem_append.1 h with h | h
    · exact form_of_mem_signs h
    · exact form_of_mem_controls (List.mem_of_mem_take h)
  · rcases List.mem_append.1 h with h | h
    · obtain ⟨e, he, h⟩ := List.mem_flatMap.1 h
      have hmem := Catalog.mem_ids_of_mem_entities (Match.mem_of_mem_best he)
      exact form_of_mem_ofEntity hmem h
    · exact form_of_mem_keys (Match.mem_of_mem_best h)

theorem form_of_mem_valueCandidates {fragment rest key written : Text} {sign : Option Sign}
    (h : s ∈ r.valueCandidates fragment sign rest key written) : Form r.catalog s := by
  simp only [valueCandidates] at h
  split at h
  · exact form_of_mem_axisCandidates h
  split at h
  · next hfound _ => exact form_of_mem_controlCandidates hfound h
  · exact form_of_mem_axisKeys (Match.mem_of_mem_best h)
  · exact form_of_mem_keys (Match.mem_of_mem_best h)

theorem form_of_mem_candidates (h : s ∈ r.candidates) : Form r.catalog s := by
  simp only [candidates] at h
  split at h
  · exact form_of_mem_keyCandidates h
  · exact form_of_mem_valueCandidates h

theorem form_of_mem_suggestions (h : s ∈ r.suggestions) : Form r.catalog s :=
  form_of_mem_candidates (mem_of_mem_offerAfter h).1

end Request

/-! ## Behind a sign -/

namespace Text

theorem dropEnd_prefix (p : Char → Bool) (t : Text) : dropEnd p t <+: t :=
  List.rdropWhile_prefix ..

theorem dropEnd_append_cons {p : Char → Bool} {d : Char} (hd : p d = false) (a t : Text) :
    dropEnd p (a ++ d :: t) = a ++ d :: dropEnd p t := by
  have hstop : (d :: a.reverse).dropWhile p = d :: a.reverse := by
    rw [List.dropWhile_cons, if_neg (by simp [hd])]
  rw [dropEnd, List.reverse_append, List.reverse_cons, List.append_assoc, List.singleton_append,
    List.dropWhile_append, hstop, dropEnd]
  split
  · next hempty => simp [List.isEmpty_iff.1 hempty]
  · simp

end Text

namespace Query

theorem Sign.split_mark (sign : Sign) (rest : Text) :
    Sign.split (sign.mark :: rest) = (some sign, rest) := by
  cases sign <;> rfl

theorem no_colon_of_axis {key : Text} {axis : Axis} (h : Axis.ofKey? (Text.lower key) = some axis) :
    ':' ∉ key := by
  obtain ⟨-, -, hcolon, -⟩ := plain_axisKeys _ (mem_axisKeys h)
  exact fun hmem => hcolon ((Text.mem_lower_iff (by decide) key).2 hmem)

end Query

/-- What values are matched against while `written` stands behind the colon. -/
def Suggestion.typed (written : Text) : Text :=
  Text.lower (Text.trim (· == '"') (Text.dropEnd Text.isBlank written))

namespace Request

open Suggestion

variable {lead rest : Text} {sign : Sign}

/-- Stripping a fragment that begins with a sign takes nothing but blanks from behind the sign. -/
theorem strip_signed (hlead : ∀ c ∈ lead, Text.isBlank c = true) (sign : Sign) (rest : Text) :
    Text.strip (lead ++ sign.mark :: rest) = sign.mark :: Text.dropEnd Text.isBlank rest := by
  have hmark : Text.isBlank sign.mark = false := by cases sign <;> rfl
  rw [Text.strip, Text.trim, List.dropWhile_append_of_pos hlead, List.dropWhile_cons,
    if_neg (by simp [hmark])]
  exact Text.dropEnd_append_cons hmark [] rest

theorem candidates_of_keyless (hlead : ∀ c ∈ lead, Text.isBlank c = true)
    (h : r.fragment = lead ++ sign.mark :: rest) (hcolon : ':' ∉ rest) :
    ∃ query, r.candidates = Match.best keyTarget query r.limit (axisKeys [sign.mark]) := by
  have hbody : Text.cut? ':' (Text.dropEnd Text.isBlank rest) = none :=
    Text.cut?_eq_none_iff.2 fun hmem => hcolon ((Text.dropEnd_prefix _ _).subset hmem)
  refine ⟨Text.lower (Text.dropEnd Text.isBlank rest), ?_⟩
  simp only [candidates, h, strip_signed hlead, Sign.split_mark, hbody, keyCandidates]

theorem candidates_of_axis (hlead : ∀ c ∈ lead, Text.isBlank c = true)
    (h : r.fragment = lead ++ sign.mark :: rest) {key written : Text} {axis : Axis}
    (hcut : Text.cut? ':' rest = some (key, written))
    (haxis : Axis.ofKey? (Text.lower key) = some axis) :
    r.candidates = r.axisCandidates [sign.mark] axis (typed written) := by
  have hbody : Text.cut? ':' (Text.dropEnd Text.isBlank rest) =
      some (key, Text.dropEnd Text.isBlank written) := by
    rw [Text.cut?_eq_some_append hcut, Text.dropEnd_append_cons (by decide),
      Text.cut?_append_mark (no_colon_of_axis haxis)]
  simp only [candidates, h, strip_signed hlead, Sign.split_mark, hbody, valueCandidates, haxis, typed]

end Request

/-! ## Suggestions read back -/

namespace Suggestion

theorem BuiltFrom.selects {id token : Text} (h : BuiltFrom c id token) :
    ∃ key chosen, Selects token key (Text.strip id) chosen := by
  cases h with
  | pick sign _ =>
    exact ⟨_, _, (takes_pick (Axis.ofKey?_key _) sign).selects (isWritten_writtenId _ id)⟩
  | focus _ => exact ⟨_, _, takes_focus.selects (isWritten_quote id)⟩

theorem BuiltFrom.isValid_iff {id token : Text} {e : Entry} (h : BuiltFrom c id token)
    (he : entries token = [e]) : e.isValid = true ↔ IsValue (Text.strip id) := by
  obtain ⟨key, chosen, hselects⟩ := h.selects
  obtain ⟨e', he', -, -, hvalid⟩ := hselects.entry
  rw [he, List.cons.injEq] at he'
  exact he'.1 ▸ hvalid

theorem valid_of_mem_settings : ∀ token ∈ settings,
    tokens token = [token] ∧ (Entry.ofToken token).isValid = true := by
  decide

/-- A whole token is one entry, which is refused just if it is built from an id that is no value. -/
theorem exists_entry {token : Text}
    (h : token ∈ settings ∨ ∃ id, BuiltFrom c id token) :
    ∃ e, entries token = [e] ∧
      (e.isValid = false ↔ ∃ id, BuiltFrom c id token ∧ ¬ IsValue (Text.strip id)) := by
  rcases h with hsetting | ⟨id, hbuilt⟩
  · obtain ⟨htokens, hvalid⟩ := valid_of_mem_settings token hsetting
    have he : entries token = [Entry.ofToken token] := by rw [entries, htokens]; rfl
    -- A token with a valid entry is built from values only, if it is built from ids at all.
    refine ⟨_, he, iff_of_false (by simp [hvalid]) ?_⟩
    rintro ⟨id, hbuilt, hid⟩
    exact hid ((hbuilt.isValid_iff he).1 hvalid)
  · obtain ⟨key, chosen, hselects⟩ := hbuilt.selects
    obtain ⟨e, he, -⟩ := hselects.entry
    refine ⟨e, he, fun hrefused => ⟨id, hbuilt, ?_⟩, ?_⟩
    · rw [← hbuilt.isValid_iff he, hrefused]
      exact Bool.false_ne_true
    · rintro ⟨id', hbuilt', hid⟩
      rwa [← hbuilt'.isValid_iff he, Bool.not_eq_true] at hid

/-- Every suggestion is a sign, a key whose template is still to be filled in, or a whole token. A
whole token is one entry, and the entry is valid unless the token is built from an id that is blank or
a template but for blanks around it. Behind a sign, and a key of an axis if there is a colon, all
suggestions begin with the sign, and one that follows such a key picks a value of its axis with the
sign or is refused. -/
theorem suggestions_read (r : Request) :
    (∀ s ∈ r.suggestions,
      (s.stage = none ∧ (s.token = "+" ∨ s.token = "-")) ∨
      (∃ stage, s.stage = some stage ∧ stage.getLast? = some ':' ∧ stage <+: s.token) ∨
      (s.stage = none ∧ ∃ e, entries s.token = [e] ∧
        (e.isValid = false ↔
          ∃ id, BuiltFrom r.catalog id s.token ∧ ¬ IsValue (Text.strip id)))) ∧
    ∀ (lead : Text) (sign : Sign) (rest : Text), (∀ c ∈ lead, Text.isBlank c = true) →
      r.fragment = lead ++ sign.mark :: rest →
      (':' ∉ rest → ∀ s ∈ r.suggestions, s.token.head? = some sign.mark) ∧
      ∀ key written axis, Text.cut? ':' rest = some (key, written) →
        Axis.ofKey? (Text.lower key) = some axis →
        ∀ s ∈ r.suggestions, s.token.head? = some sign.mark ∧
          ∀ e ∈ entries s.token, e.isValid = true →
            ∃ value, selection s.token = { picks := [⟨axis, sign, value⟩] } := by
  refine ⟨fun s hs => ?_, fun lead sign rest hlead hfragment =>
    ⟨fun hcolon s hs => ?_, fun key written axis hcut haxis s hs => ?_⟩⟩
  · cases r.form_of_mem_suggestions hs with
    | sign sign htoken hstage =>
      rw [htoken]
      exact .inl ⟨hstage, by cases sign <;> decide⟩
    | placeholder hstage hcolon hopens => exact .inr (.inl ⟨_, hstage, hcolon, hopens⟩)
    | setting hmem hstage => exact .inr (.inr ⟨hstage, exists_entry (.inl hmem)⟩)
    | built hbuilt hstage => exact .inr (.inr ⟨hstage, exists_entry (.inr ⟨_, hbuilt⟩)⟩)
  · obtain ⟨query, hcandidates⟩ := r.candidates_of_keyless hlead hfragment hcolon
    have hmem := (mem_of_mem_offerAfter hs).1
    rw [hcandidates] at hmem
    obtain ⟨axis, -, rfl⟩ := List.mem_map.1 (Match.mem_of_mem_best hmem)
    rfl
  · have hcandidates := r.candidates_of_axis hlead hfragment hcut haxis
    have hmem := (mem_of_mem_offerAfter hs).1
    rw [hcandidates] at hmem
    obtain ⟨-, id, -, htoken⟩ := r.exists_id_of_mem_axisCandidates hmem
    have hselects := (takes_pick (Axis.ofKey?_key axis) sign).selects (isWritten_writtenId axis id)
    obtain ⟨⟨e, he, -, -, hvalid⟩, hselection⟩ := hselects
    rw [htoken]
    refine ⟨rfl, fun e' he' hvalid' => ⟨Text.strip id, ?_⟩⟩
    have hmem' : e' ∈ [e] := he ▸ he'
    rw [List.mem_singleton] at hmem'
    exact hselection.trans (if_pos (hvalid.1 (hmem' ▸ hvalid')))

/-- A location, a template and a blank behind the other key of the axis. -/
example :
    let r : Request := { fragment := "+Source:", catalog := { locations := ["a:1", "<src>", " "] } }
    r.suggestions.map Suggestion.token =
        ["+location:\"a:1\"", "+location:<src>", "+location:\" \""] ∧
      (r.suggestions.flatMap fun s => entries s.token).map Entry.isValid = [true, false, false] := by
  decide

end Suggestion

end FilterBar
