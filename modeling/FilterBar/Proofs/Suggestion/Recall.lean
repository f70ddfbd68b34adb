import FilterBar.Proofs.Suggestion.Repetition
import FilterBar.Proofs.Text.Case

/-!
# Ids found by their own token

A token that is built from an id is typed again, and the id is looked for. What is looked for is
the written id without the double quotes around it, but with its escapes: each backslash that was
put in front of a double quote or a backslash is looked for too. So an id is found as long as it
stands in its token without escapes (`typed_prefix_lower`). Where it was escaped, a node or a
location is not found (`isVerbatim_of_typed_sublist`); an item can still be found by the
backslashes of its label.

- `IsVerbatim`: whether an id is written without escapes.
- `pickToken_mem_suggestions_iff`: when the token of an id is suggested for itself.
-/

namespace FilterBar

open Query

namespace Text

variable {p : Char → Bool} {d : Char} {t b : Text}

theorem count_dropWhile (hd : p d = false) (t : Text) : (t.dropWhile p).count d = t.count d := by
  have htaken : (t.takeWhile p).count d = 0 := List.count_eq_zero_of_not_mem fun h => by
    have := List.mem_takeWhile_imp h
    simp [hd] at this
  rw [← Nat.zero_add (List.count d (t.dropWhile p)), ← htaken, ← List.count_append,
    List.takeWhile_append_dropWhile]

theorem count_dropEnd (hd : p d = false) (t : Text) : (dropEnd p t).count d = t.count d := by
  rw [dropEnd, List.count_reverse, count_dropWhile hd, List.count_reverse]

theorem count_trim (hd : p d = false) (t : Text) : (trim p t).count d = t.count d := by
  rw [trim, count_dropEnd hd, count_dropWhile hd]

theorem dropEnd_append (ht : ∀ c ∈ t, p c = false) (hb : ∀ c ∈ b, p c = true) :
    dropEnd p (t ++ b) = t := by
  rw [dropEnd, List.reverse_append, List.dropWhile_append_of_pos (by simpa using hb)]
  cases hr : t.reverse with
  | nil => simpa using hr.symm
  | cons c r =>
    have hc : p c = false := ht c (List.mem_reverse.1 (hr ▸ List.mem_cons_self))
    rw [List.dropWhile_cons_of_neg (by simp [hc]), ← hr, List.reverse_reverse]

theorem trim_append {a : Text} (ha : ∀ c ∈ a, p c = true) (ht : ∀ c ∈ t, p c = false)
    (hb : ∀ c ∈ b, p c = true) : trim p (a ++ (t ++ b)) = t := by
  rw [trim, List.dropWhile_append_of_pos ha]
  cases t with
  | nil =>
    have hnil : b.dropWhile p = [] := List.dropWhile_eq_nil_iff.2 hb
    rw [List.nil_append, hnil, dropEnd_nil]
  | cons c r =>
    have hc : p c = false := ht c List.mem_cons_self
    rw [List.cons_append, List.dropWhile_cons_of_neg (by simp [hc]), ← List.cons_append,
      dropEnd_append ht hb]

end Text

namespace Query

variable {v : Text}

theorem count_escape (v : Text) : (escape v).count '\\' = 2 * v.count '\\' + v.count '"' := by
  induction v with
  | nil => rfl
  | cons d r ih =>
    by_cases hb : d = '\\'
    · simp [escape, hb, ih]
      omega
    by_cases hq : d = '"'
    · simp [escape, hq, ih]
      omega
    · simp [escape, hb, hq, ih]

theorem escape_eq_self (hb : '\\' ∉ v) (hq : '"' ∉ v) : escape v = v := by
  induction v with
  | nil => rfl
  | cons d r ih =>
    rw [List.mem_cons, not_or] at hb hq
    have hd : ¬(d = '\\' ∨ d = '"') := not_or.2 ⟨Ne.symm hb.1, Ne.symm hq.1⟩
    rw [escape, if_neg hd, ih hb.2 hq.2]

/-- Between double quotes there are more backslashes than in the value, unless nothing is escaped.
-/
theorem not_mem_of_count_enquote_le (h : (enquote v).count '\\' ≤ v.count '\\') :
    '\\' ∉ v ∧ '"' ∉ v := by
  have hcount : (enquote v).count '\\' = (escape v).count '\\' := by simp [enquote]
  rw [hcount, count_escape] at h
  exact ⟨List.count_eq_zero.1 (by omega), List.count_eq_zero.1 (by omega)⟩

theorem enquote_injective : Function.Injective enquote := by
  intro v w h
  rw [← unquote_enquote v, h, unquote_enquote]

theorem not_mem_of_isBare (h : isBare v = true) : '"' ∉ v := by
  obtain ⟨t, b, rfl, -, ht, hb⟩ := exists_of_isBare h
  intro hmem
  rcases List.mem_append.1 hmem with hmem | hmem
  · exact (ht _ hmem).2 rfl
  · exact absurd (hb _ hmem) (by decide)

theorem IsWritten.eq {v' w : Text} (h : IsWritten v w) (h' : IsWritten v' w) : v = v' := by
  cases h with
  | bare hv =>
    cases h' with
    | bare => rfl
    | quoted => exact absurd List.mem_cons_self (not_mem_of_isBare hv)
  | quoted =>
    generalize hw : enquote v = w at h'
    cases h' with
    | bare hv' => exact absurd (hw ▸ List.mem_cons_self) (not_mem_of_isBare hv')
    | quoted => exact enquote_injective hw

end Query

namespace Suggestion

variable {c : Catalog} {axis : Axis} {sign : Sign} {v w target : Text}

/-- Whether an id is written without escapes: bare, or with nothing in it to escape. -/
def IsVerbatim (axis : Axis) (v : Text) : Prop := writtenId axis v = v ∨ '\\' ∉ v ∧ '"' ∉ v

instance (axis : Axis) (v : Text) : Decidable (IsVerbatim axis v) :=
  inferInstanceAs (Decidable (_ ∨ _))

theorem pickToken_injective (sign : Sign) (axis : Axis) :
    Function.Injective (pickToken sign axis) := by
  intro v v' h
  rw [pickToken, pickToken, List.cons_inj_right, List.append_cancel_left_eq,
    List.cons_inj_right] at h
  exact (isWritten_writtenId axis v).eq (h ▸ isWritten_writtenId axis v')

/-! ## What an id is found by -/

theorem exists_of_mem_listed (h : (v, target) ∈ c.listed axis) :
    ∃ rest, target = v ++ rest ∧ (∀ d ∈ rest.head?, Text.isBlank d = true) ∧
      (axis = .node ∨ axis = .location → rest = []) := by
  cases axis with
  | node | location =>
    obtain ⟨id, -, heq⟩ := List.mem_map.1 h
    cases heq
    exact ⟨[], by simp, by simp, fun _ => rfl⟩
  | _ =>
    obtain ⟨i, -, heq⟩ := List.mem_map.1 h
    cases heq
    refine ⟨' ' :: i.label, by simp [itemTarget], fun d hd => ?_, by simp⟩
    rw [List.head?_cons, Option.mem_some_iff] at hd
    exact hd ▸ rfl

theorem count_typed (w : Text) : (typed w).count '\\' = w.count '\\' := by
  rw [typed, Text.count_lower (by decide), Text.count_trim (by decide),
    Text.count_dropEnd (by decide)]

theorem typed_enquote (hb : '\\' ∉ v) (hq : '"' ∉ v) : typed (enquote v) = Text.lower v := by
  have hlast : Text.dropEnd Text.isBlank (enquote v) = enquote v := by
    rw [enquote, Text.dropEnd_append_singleton, if_neg (by decide)]
  have htrim : Text.trim (· == '"') (['"'] ++ (v ++ ['"'])) = v := by
    refine Text.trim_append (by simp) (fun d hd => ?_) (by simp)
    simpa using fun h : d = '"' => hq (h ▸ hd)
  rw [typed, hlast, enquote, escape_eq_self hb hq]
  exact congrArg Text.lower htrim

theorem typed_prefix_lower (hv : IsVerbatim axis v) {rest : Text}
    (hrest : ∀ d ∈ rest.head?, Text.isBlank d = true) :
    typed (writtenId axis v) <+: Text.lower (v ++ rest) := by
  unfold IsVerbatim at hv
  generalize hw : writtenId axis v = w at hv
  have hwritten := hw ▸ isWritten_writtenId axis v
  cases hwritten with
  | bare hbare =>
    obtain ⟨t, b, rfl, -, ht, hb⟩ := exists_of_isBare hbare
    have hdrop : Text.dropEnd Text.isBlank (t ++ b) = t :=
      Text.dropEnd_append (fun d hd => (ht d hd).1) hb
    have htrim : Text.trim (· == '"') ([] ++ (t ++ [])) = t :=
      Text.trim_append (by simp) (fun d hd => by simpa using (ht d hd).2) (by simp)
    rw [List.nil_append, List.append_nil] at htrim
    rw [typed, hdrop, htrim, List.append_assoc]
    refine Text.lower_prefix_lower (fun d hd => ?_) t
    cases b with
    | nil => exact hrest d hd
    | cons e b => exact hb d (List.mem_of_mem_head? hd)
  | quoted =>
    have hplain : '\\' ∉ v ∧ '"' ∉ v :=
      hv.elim (fun heq => not_mem_of_count_enquote_le (by rw [heq])) id
    rw [typed_enquote hplain.1 hplain.2]
    exact Text.lower_prefix_lower hrest v

theorem isVerbatim_of_typed_sublist (h : (typed (writtenId axis v)).Sublist (Text.lower v)) :
    IsVerbatim axis v := by
  unfold IsVerbatim
  generalize hw : writtenId axis v = w at h
  have hwritten := hw ▸ isWritten_writtenId axis v
  cases hwritten with
  | bare => exact .inl rfl
  | quoted =>
    have hcount := h.count_le '\\'
    rw [count_typed, Text.count_lower (by decide)] at hcount
    exact .inr (not_mem_of_count_enquote_le hcount)

/-- Whether an id is found by what is typed with its token. -/
def IsFound (c : Catalog) (axis : Axis) (v : Text) : Prop :=
  ∃ target, (v, target) ∈ c.listed axis ∧ (typed (writtenId axis v)).Sublist (Text.lower target)

theorem isFound_of_isVerbatim (hmem : (v, target) ∈ c.listed axis) (hv : IsVerbatim axis v) :
    IsFound c axis v := by
  obtain ⟨rest, rfl, hrest, -⟩ := exists_of_mem_listed hmem
  exact ⟨_, hmem, (typed_prefix_lower hv hrest).sublist⟩

/-- A node or a location has nothing else to be found by than its id. -/
theorem isVerbatim_of_isFound (haxis : axis = .node ∨ axis = .location) (h : IsFound c axis v) :
    IsVerbatim axis v := by
  obtain ⟨target, hmem, hsub⟩ := h
  obtain ⟨rest, rfl, -, hrest⟩ := exists_of_mem_listed hmem
  rw [hrest haxis, List.append_nil] at hsub
  exact isVerbatim_of_typed_sublist hsub

end Suggestion

namespace Catalog

open Suggestion

variable {c : Catalog} {axis : Axis} {v query : Text}

theorem mem_matching_iff :
    v ∈ c.matching axis query ↔
      ∃ target, (v, target) ∈ c.listed axis ∧ query.Sublist (Text.lower target) := by
  rw [matching, ← Match.ranked_eq_flatMap, List.mem_map]
  simp only [Match.mem_ranked_iff, Match.tier?_isSome_iff]
  constructor
  · rintro ⟨⟨v, target⟩, h, rfl⟩
    exact ⟨target, h⟩
  · rintro ⟨target, h⟩
    exact ⟨(v, target), h, rfl⟩

theorem length_matching_le (c : Catalog) (axis : Axis) (query : Text) :
    (c.matching axis query).length ≤ (c.listed axis).length := by
  rw [matching, ← Match.ranked_eq_flatMap, List.length_map]
  exact Match.length_ranked_le _ _ _

end Catalog

/-! ## Suggested for its own token -/

namespace Suggestion

variable {r : Request} {axis : Axis} {sign : Sign} {v : Text}

theorem lower_key (axis : Axis) : Axis.ofKey? (Text.lower axis.key) = some axis := by
  cases axis <;> decide

theorem candidates_eq_of_strip_eq {fragment : Text}
    (h : Text.strip r.fragment = Text.strip fragment) :
    r.candidates = Request.candidates { r with fragment := fragment } := by
  simp only [Request.candidates, h]
  rfl

/-- The token of an id is suggested for itself just if the id is found and the query does not have
it already, as long as the limit leaves room for all entries of the axis. -/
theorem pickToken_mem_suggestions_iff
    (hfragment : Text.strip r.fragment = Text.strip (pickToken sign axis v))
    (hlimit : ((r.catalog.listed axis).length : Int) ≤ r.limit) :
    pickToken sign axis v ∈ r.suggestions.map token ↔
      IsFound r.catalog axis v ∧ IsNew r.existing (pickToken sign axis v) := by
  let r' : Request := { r with fragment := pickToken sign axis v }
  have hnat : r'.limit = (r.limit.toNat : Nat) := by
    show r.limit = _
    omega
  have hlen := r.catalog.length_matching_le axis (typed (writtenId axis v))
  have hall : (r.catalog.matching axis (typed (writtenId axis v))).take r.limit.toNat =
      r.catalog.matching axis (typed (writtenId axis v)) := List.take_of_length_le (by omega)
  have htokens : r.candidates.map token =
      (r.catalog.matching axis (typed (writtenId axis v))).map (pickToken sign axis) := by
    rw [candidates_eq_of_strip_eq hfragment, ← hall]
    exact r'.candidates_tokens (lower_key axis) rfl hnat
  rw [mem_suggestions_iff, htokens, List.mem_map_of_injective (pickToken_injective sign axis),
    Catalog.mem_matching_iff, IsFound]

end Suggestion

end FilterBar
