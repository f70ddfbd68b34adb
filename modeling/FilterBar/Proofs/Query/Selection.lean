import Mathlib.Data.List.Nodup
import FilterBar.Query.Selection

/-!
# What decides a selection

A token is read on its own, and a selection keeps nothing of the tokens that are refused. So each
bucket holds the values of the valid tokens with its axis and sign, and each display option has the
value of the last valid token of its family: `DeterminedBy` says this, and `selection_determined`
that it is so for every query and for every list of tokens. Refused tokens can then be left out, and
the order of the others is of no account to the buckets.

`Filter.Spelt` lists the ways to spell a filter. It is what a valid token is taken apart with.
-/

namespace FilterBar.Query

variable {sign : Option Sign} {key value : Text} {f : Filter} {e : Entry} {p : Pick}

/-! ## Spelling a filter -/

/-- What a sign, a key without case and a value spell. -/
inductive Filter.Spelt (sign : Option Sign) (value : Text) : Text → Filter → Prop
  | pick {s : Sign} {a : Axis} {key : Text} (hs : sign = some s) (ha : Axis.ofKey? key = some a) :
    Spelt sign value key (.pick ⟨a, s, value⟩)
  | loners {shown : Bool} (h : readFlag? value = some shown) :
    Spelt sign value "loners" (.loners shown)
  | sources {shown : Bool} (hs : sign = none) (h : readSwitch? value = some shown) :
    Spelt sign value "source" (.sources shown)
  | color {mode : ColorMode} (h : mode.name = value) : Spelt sign value "colorby" (.color mode)
  | ungroup (h : value = GroupMode.noneName) : Spelt sign value "groupby" (.group none)
  | group {mode : GroupMode} (h : mode.name = value) :
    Spelt sign value "groupby" (.group (some mode))
  | label {mode : LabelMode} (h : mode.name = value) : Spelt sign value "labelby" (.label mode)
  | focus {key : Text} (hk : key = "focus" ∨ key = "subgraph") :
    Spelt sign value key (.focus value)

theorem Filter.spelt_of_ofControl? (h : Filter.ofControl? sign key value = some f) :
    Spelt sign value key f := by
  unfold Filter.ofControl? at h
  split at h
  · next hk =>
    subst hk
    obtain ⟨shown, hread, rfl⟩ := Option.map_eq_some_iff.1 h
    exact .loners hread
  split at h
  · next hk =>
    obtain ⟨rfl, hs⟩ := hk
    obtain ⟨shown, hread, rfl⟩ := Option.map_eq_some_iff.1 h
    exact .sources hs hread
  split at h
  · next hk =>
    subst hk
    obtain ⟨mode, hmode, rfl⟩ := Option.map_eq_some_iff.1 h
    exact .color (by simpa using List.find?_some hmode)
  split at h
  · next hk =>
    subst hk
    split at h
    · next hnone =>
      cases h
      exact .ungroup hnone
    · obtain ⟨mode, hmode, rfl⟩ := Option.map_eq_some_iff.1 h
      exact .group (by simpa using List.find?_some hmode)
  split at h
  · next hk =>
    subst hk
    obtain ⟨mode, hmode, rfl⟩ := Option.map_eq_some_iff.1 h
    exact .label (by simpa using List.find?_some hmode)
  split at h
  · next hk =>
    split at h
    · cases h
    · cases h
      exact .focus hk
  · cases h

theorem Filter.spelt_of_ofKey? (h : Filter.ofKey? sign key value = some f) :
    Spelt sign value key f := by
  unfold Filter.ofKey? at h
  split at h
  · next s a ha =>
    split at h
    · cases h
    · cases h
      exact .pick rfl ha
  · exact spelt_of_ofControl? h

/-! ## Valid entries -/

theorem Reading.exists_of_filter? {r : Reading} (h : r.filter? = some f) :
    ∃ key value, r = .accepted key value f := by
  cases r with
  | accepted key value g =>
    cases h
    exact ⟨key, value, rfl⟩
  | _ => cases h

theorem Reading.ofKey?_of_accepted {token : Text} (h : ofToken token = .accepted key value f) :
    Filter.ofKey? (Sign.split token).1 (Text.lower key) value = some f := by
  simp only [ofToken] at h
  split at h
  · cases h
  split at h
  · cases h
  split at h
  · cases h
  split at h
  · next hfilter =>
    cases h
    exact hfilter
  · cases h

namespace Entry

def sign? (e : Entry) : Option Sign := Sign.all.find? fun s => e.raw.head? = some s.mark

def lowerKey? (e : Entry) : Option Text := e.reading.key?.map Text.lower

theorem sign?_eq_split (e : Entry) : e.sign? = (Sign.split e.raw).1 := by
  unfold sign? Sign.split
  split
  · next r h => rw [h]; rfl
  · next r h => rw [h]; rfl
  · next hplus hminus =>
    have hhead : ∀ s : Sign, e.raw.head? ≠ some s.mark := by
      intro s h
      obtain ⟨r, hr⟩ := List.head?_eq_some_iff.1 h
      cases s with
      | plus => exact hplus r hr
      | minus => exact hminus r hr
    simp [hhead]

theorem exists_spelt {token : Text} (h : (ofToken token).filter? = some f) :
    ∃ key value, (ofToken token).lowerKey? = some key ∧
      (ofToken token).reading.value? = some value ∧
      Filter.Spelt (ofToken token).sign? value key f := by
  obtain ⟨key, value, hread⟩ := Reading.exists_of_filter? h
  have hspelt := Filter.spelt_of_ofKey? (Reading.ofKey?_of_accepted hread)
  refine ⟨Text.lower key, value, ?_, ?_, ?_⟩
  · rw [lowerKey?, hread]
    rfl
  · rw [hread]
    rfl
  · rw [sign?_eq_split]
    exact hspelt

end Entry

/-! ## Buckets -/

namespace Selection

theorem mem_picks_foldl (fs : List Filter) (s : Selection) :
    p ∈ (fs.foldl add s).picks ↔ p ∈ s.picks ∨ .pick p ∈ fs := by
  induction fs generalizing s with
  | nil => simp
  | cons f fs ih => rw [List.foldl_cons, ih, mem_picks_add, List.mem_cons, or_assoc, eq_comm]

theorem mem_picks_ofEntries {es : List Entry} :
    p ∈ (ofEntries es).picks ↔ ∃ e ∈ es, e.filter? = some (.pick p) := by
  simp [ofEntries, mem_picks_foldl, empty]

theorem nodup_picks_foldl (fs : List Filter) {s : Selection} (h : s.picks.Nodup) :
    (fs.foldl add s).picks.Nodup := by
  induction fs generalizing s with
  | nil => exact h
  | cons f fs ih =>
    refine ih ?_
    cases f with
    | pick p =>
      by_cases hp : p ∈ s.picks
      · simpa [add, hp] using h
      · simp only [add, hp, if_false]
        exact List.nodup_append.2 ⟨h, by simp, fun a ha b hb => by
          rintro rfl
          exact hp (List.mem_singleton.1 hb ▸ ha)⟩
    | group mode => cases mode <;> exact h
    | _ => exact h

theorem nodup_bucket {s : Selection} (h : s.picks.Nodup) (axis : Axis) (sign : Sign) :
    (s.bucket axis sign).Nodup := by
  refine List.Nodup.map_on (fun p hp q hq hvalue => ?_) (h.filter _)
  have hp := (List.mem_filter.1 hp).2
  have hq := (List.mem_filter.1 hq).2
  simp only [decide_eq_true_eq] at hp hq
  cases p
  cases q
  simp_all

end Selection

theorem Entry.filter?_eq_pick_iff {token : Text} {axis : Axis} {sign : Sign} {value : Text} :
    (ofToken token).filter? = some (.pick ⟨axis, sign, value⟩) ↔
      (ofToken token).isValid = true ∧ (ofToken token).sign? = some sign ∧
        (ofToken token).lowerKey?.bind Axis.ofKey? = some axis ∧
        (ofToken token).reading.value? = some value := by
  constructor
  · intro h
    obtain ⟨key, v, hkey, hvalue, hspelt⟩ := exists_spelt h
    cases hspelt with
    | pick hs ha => exact ⟨by simp [isValid, h], hs, by rw [hkey]; exact ha, hvalue⟩
  · rintro ⟨hvalid, hsign, haxis, hvalue⟩
    obtain ⟨f, hf⟩ := Option.isSome_iff_exists.1 hvalid
    obtain ⟨key, v, hkey, hv, hspelt⟩ := exists_spelt hf
    rw [hkey, Option.bind_some] at haxis
    rw [hvalue] at hv
    cases hv
    cases hspelt with
    | pick hs ha =>
      rw [hs] at hsign
      cases hsign
      rw [ha] at haxis
      cases haxis
      exact hf
    | sources hs _ =>
      rw [hs] at hsign
      cases hsign
    | focus hk =>
      rcases hk with rfl | rfl <;> cases haxis
    | _ => cases haxis

/-! ## Display options -/

/-- Which tokens set a display option, by their sign, their key without case and their value. -/
abbrev Family := Option Sign → Text → Text → Bool

def Entry.valueIn? (family : Family) (e : Entry) : Option Text :=
  if e.isValid then
    e.lowerKey?.bind fun key => e.reading.value?.filter fun value => family e.sign? key value
  else none

def lastValue? (family : Family) (es : List Entry) : Option Text :=
  (es.filterMap (Entry.valueIn? family)).getLast?

namespace Family

def keyed (keys : List Text) : Family := fun _ key _ => keys.contains key

def sources : Family := fun sign key _ => sign = none ∧ key = "source"

def grouping : Family := fun sign key value =>
  keyed ["groupby"] sign key value && value ≠ GroupMode.noneName

/-- The key of an axis is not the key of a display option. -/
theorem keyed_of_ofKey? {axis : Axis} (ha : Axis.ofKey? key = some axis) {keys : List Text}
    (hkeys : ∀ k ∈ keys, Axis.ofKey? k = none) : keyed keys sign key value = false :=
  Bool.eq_false_iff.2 fun h => by
    rw [hkeys key (List.contains_iff_mem.1 h)] at ha
    cases ha

end Family

/-- A display option: where a selection keeps it, what a filter sets it to, which tokens are such
filters, and how they give it by their value. -/
structure Setting (α : Type) where
  get : Selection → Option α
  part : Filter → Option α
  family : Family
  read : Text → α
  get_empty : get .empty = none := by rfl
  get_add : ∀ s f, get (s.add f) = (part f).or (get s) := by
    rintro s (_ | _ | _ | _ | (_ | _) | _ | _) <;> rfl
  part_of_spelt : ∀ {sign key value f}, Filter.Spelt sign value key f →
    part f = if family sign key value then some (read value) else none

namespace Setting

variable {α : Type} (o : Setting α)

theorem get_foldl (fs : List Filter) (s : Selection) :
    o.get (fs.foldl Selection.add s) = ((fs.filterMap o.part).getLast?).or (o.get s) := by
  induction fs generalizing s with
  | nil => rfl
  | cons f fs ih =>
    rw [List.foldl_cons, ih, o.get_add]
    cases hf : o.part f with
    | none => simp [hf]
    | some a =>
      rw [List.filterMap_cons_some hf, List.getLast?_cons]
      cases (fs.filterMap o.part).getLast? <;> rfl

theorem bind_part_eq (token : Text) : (Entry.ofToken token).filter?.bind o.part =
    ((Entry.ofToken token).valueIn? o.family).map o.read := by
  cases hf : (Entry.ofToken token).filter? with
  | none => simp [Entry.valueIn?, Entry.isValid, hf]
  | some f =>
    obtain ⟨key, value, hkey, hvalue, hspelt⟩ := Entry.exists_spelt hf
    rw [Option.bind_some, o.part_of_spelt hspelt]
    cases hfamily : o.family (Entry.ofToken token).sign? key value <;>
      simp [Entry.valueIn?, Entry.isValid, hf, hkey, hvalue, Option.filter, hfamily]

/-- A display option is what the last valid token of its family says. -/
theorem get_ofEntries (raws : List Text) : o.get (.ofEntries (raws.map Entry.ofToken)) =
    (lastValue? o.family (raws.map Entry.ofToken)).map o.read := by
  rw [Selection.ofEntries, get_foldl, o.get_empty, Option.or_none, lastValue?, ← List.getLast?_map,
    List.filterMap_filterMap, List.map_filterMap, List.filterMap_map, List.filterMap_map]
  exact congrArg List.getLast? (List.filterMap_congr fun token _ => o.bind_part_eq token)

end Setting

/-! ## Options one by one -/

def yesWords : List Text := ["on", "true", "yes"]

theorem eq_of_readFlag? {shown : Bool} (h : readFlag? value = some shown) :
    shown = yesWords.contains value := by
  unfold readFlag? at h
  split at h
  · next hyes =>
    cases h
    simpa [yesWords] using hyes
  · next hno =>
    split at h
    · cases h
      simpa [yesWords] using hno
    · cases h

theorem eq_of_readSwitch? {shown : Bool} (h : readSwitch? value = some shown) :
    shown = decide (value = "on") := by
  unfold readSwitch? at h
  split at h
  · next hyes =>
    cases h
    simpa using hyes
  · next hno =>
    split at h
    · cases h
      simpa using hno
    · cases h

namespace Setting

def loners : Setting Bool where
  get := Selection.loners
  part
    | .loners shown => some shown
    | _ => none
  family := .keyed ["loners"]
  read := yesWords.contains
  part_of_spelt h := by
    cases h with
    | loners h => exact congrArg some (eq_of_readFlag? h)
    | pick _ ha => rw [Family.keyed_of_ofKey? ha (by decide)]; rfl
    | focus hk => rcases hk with rfl | rfl <;> rfl
    | _ => rfl

def sources : Setting Bool where
  get := Selection.sources
  part
    | .sources shown => some shown
    | _ => none
  family := .sources
  read value := value = "on"
  part_of_spelt {sign _ _ _} h := by
    cases h with
    | sources hs h =>
      subst hs
      exact congrArg some (eq_of_readSwitch? h)
    | pick hs _ => simp [Family.sources, hs]
    | focus hk => rcases hk with rfl | rfl <;> cases sign <;> rfl
    | _ => cases sign <;> rfl

def colorBy : Setting Text where
  get s := s.colorBy.map ColorMode.name
  part
    | .color mode => some mode.name
    | _ => none
  family := .keyed ["colorby"]
  read := id
  part_of_spelt h := by
    cases h with
    | color h => exact congrArg some h
    | pick _ ha => rw [Family.keyed_of_ofKey? ha (by decide)]; rfl
    | focus hk => rcases hk with rfl | rfl <;> rfl
    | _ => rfl

def groupBy : Setting Text where
  get s := s.groupBy.map GroupMode.name
  part
    | .group mode => mode.map GroupMode.name
    | _ => none
  family := .grouping
  read := id
  part_of_spelt h := by
    cases h with
    | ungroup h =>
      subst h
      rfl
    | @group mode h =>
      subst h
      cases mode <;> rfl
    | pick _ ha => rw [Family.grouping, Family.keyed_of_ofKey? ha (by decide)]; rfl
    | focus hk => rcases hk with rfl | rfl <;> rfl
    | _ => rfl

def labelBy : Setting Text where
  get s := s.labelBy.map LabelMode.name
  part
    | .label mode => some mode.name
    | _ => none
  family := .keyed ["labelby"]
  read := id
  part_of_spelt h := by
    cases h with
    | label h => exact congrArg some h
    | pick _ ha => rw [Family.keyed_of_ofKey? ha (by decide)]; rfl
    | focus hk => rcases hk with rfl | rfl <;> rfl
    | _ => rfl

def focused : Setting Text where
  get := Selection.focused
  part
    | .focus id => some id
    | _ => none
  family := .keyed ["focus", "subgraph"]
  read := id
  part_of_spelt h := by
    cases h with
    | focus hk => rcases hk with rfl | rfl <;> rfl
    | pick _ ha => rw [Family.keyed_of_ofKey? ha (by decide)]; rfl
    | _ => rfl

end Setting

/-! ## What a selection is determined by -/

/-- The buckets of a selection hold the values of the valid entries with their axis and sign, each
value once, and each display option is what the last valid entry of its family says. -/
structure DeterminedBy (es : List Entry) (s : Selection) : Prop where
  bucket : ∀ axis sign value, value ∈ s.bucket axis sign ↔
    ∃ e ∈ es, e.isValid = true ∧ e.sign? = some sign ∧
      e.lowerKey?.bind Axis.ofKey? = some axis ∧ e.reading.value? = some value
  once : ∀ axis sign, (s.bucket axis sign).Nodup
  loners : s.loners = (lastValue? (.keyed ["loners"]) es).map yesWords.contains
  sources : s.sources = (lastValue? .sources es).map fun v => decide (v = ("on" : Text))
  colorBy : s.colorBy.map ColorMode.name = lastValue? (.keyed ["colorby"]) es
  groupBy : s.groupBy.map GroupMode.name = lastValue? .grouping es
  labelBy : s.labelBy.map LabelMode.name = lastValue? (.keyed ["labelby"]) es
  focused : s.focused = lastValue? (.keyed ["focus", "subgraph"]) es

theorem determinedBy_map_ofToken (raws : List Text) :
    DeterminedBy (raws.map Entry.ofToken) (.ofEntries (raws.map Entry.ofToken)) where
  bucket axis sign value := by
    simp only [Selection.mem_bucket, Selection.mem_picks_ofEntries, List.mem_map,
      exists_exists_and_eq_and, Entry.filter?_eq_pick_iff]
  once := Selection.nodup_bucket (Selection.nodup_picks_foldl _ List.nodup_nil)
  loners := Setting.loners.get_ofEntries raws
  sources := Setting.sources.get_ofEntries raws
  colorBy := (Setting.colorBy.get_ofEntries raws).trans Option.map_id_apply
  groupBy := (Setting.groupBy.get_ofEntries raws).trans Option.map_id_apply
  labelBy := (Setting.labelBy.get_ofEntries raws).trans Option.map_id_apply
  focused := (Setting.focused.get_ofEntries raws).trans Option.map_id_apply

namespace Selection

/-- One more token. If it is refused nothing changes. -/
def read (s : Selection) (token : Text) : Selection :=
  match (Entry.ofToken token).filter? with
  | some f => s.add f
  | none => s

/-- What a list of tokens selects when they are read one after the other. -/
def ofTokens (raws : List Text) : Selection := raws.foldl read empty

theorem ofTokens_eq (raws : List Text) : ofTokens raws = ofEntries (raws.map Entry.ofToken) := by
  rw [ofTokens, ofEntries, List.filterMap_map, List.foldl_filterMap]
  refine congrArg (List.foldl · empty raws) (funext₂ fun s token => ?_)
  rw [read, Function.comp_apply]
  cases (Entry.ofToken token).filter? <;> rfl

theorem read_of_refused {token : Text} (h : (Entry.ofToken token).isValid = false) (s : Selection) :
    s.read token = s := by
  have hfilter : (Entry.ofToken token).filter? = none := by simpa [Entry.isValid] using h
  rw [read, hfilter]

end Selection

/-- The entries of a query are its tokens in order, and they determine what it selects. The same is
true of any tokens that are read one after the other: a refused token can be left out, and the order
of the tokens does not matter to the buckets. -/
theorem selection_determined (query : Text) :
    (entries query).map Entry.raw = tokens query ∧
      DeterminedBy (entries query) (selection query) ∧
      ∀ raws : List Text,
        DeterminedBy (raws.map Entry.ofToken) (.ofTokens raws) ∧
          (∀ before token behind, raws = before ++ token :: behind →
            (Entry.ofToken token).isValid = false →
            Selection.ofTokens (before ++ behind) = .ofTokens raws) ∧
          ∀ others, others.Perm raws → ∀ axis sign value,
            value ∈ (Selection.ofTokens others).bucket axis sign ↔
              value ∈ (Selection.ofTokens raws).bucket axis sign := by
  have hdetermined : ∀ raws, DeterminedBy (raws.map Entry.ofToken) (.ofTokens raws) := fun raws => by
    rw [Selection.ofTokens_eq]
    exact determinedBy_map_ofToken raws
  refine ⟨entries_raw query, determinedBy_map_ofToken (tokens query), fun raws =>
    ⟨hdetermined raws, ?_, fun others hperm axis sign value => ?_⟩⟩
  · rintro before token behind rfl hrefused
    simp only [Selection.ofTokens, List.foldl_append, List.foldl_cons,
      Selection.read_of_refused hrefused]
  · rw [(hdetermined others).bucket, (hdetermined raws).bucket]
    simp only [(hperm.map Entry.ofToken).mem_iff]

/-- A value that is picked twice, an option with a word that it does not take, and a grouping that the
request for none leaves in force. -/
example :
    let query : Text := "+Crate:a loners:maybe -id:1 +crate:\"a\" groupBy:crate groupBy:none"
    (entries query).map Entry.isValid = [true, false, true, true, true, true] ∧
      (selection query).bucket .crate .plus = ["a"] ∧
      lastValue? (.keyed ["loners"]) (entries query) = none ∧
      lastValue? .grouping (entries query) = some ("crate" : Text) := by
  decide

end FilterBar.Query
