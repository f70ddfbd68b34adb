import Mathlib.Data.List.TakeWhile
import FilterBar.Proofs.Document.Diagnostic
import FilterBar.Proofs.Document.Problem
import FilterBar.Proofs.Query.Canonical

/-!
# Help on the key of a token

Help is shown on the key behind all the signs that a token begins with, while a token is read with
one sign at most. The signs of a token, a key that there is help on and a colon are its parts in
`HasHelp`, and both ways of looking at a token find them: `shownHelp?_eq_some_iff` for the help that is
shown, `readHelp?_eq_some_iff` for the help on the key that is read. So the two agree but for tokens
with several signs, and `hover_reads_key_iff` says that the help at a column is that on the key of the
token under it just if that token is none of these.
-/

namespace FilterBar

namespace Text

theorem head?_lower_of_mark {c : Char} (hc : IsMark c) (t : Text) :
    (lower (c :: t)).head? = some c := by
  rw [lower, lowerFrom, lowerAt_mark hc]
  rfl

end Text

namespace Query

variable {query token key : Text} {run other : Run} {column : Int}

def Run.IsUnder (run : Run) (column : Int) : Prop :=
  (run.start : Int) ≤ column ∧ column < run.start + run.token.length

instance (run : Run) (column : Int) : Decidable (run.IsUnder column) :=
  inferInstanceAs (Decidable (_ ∧ _))

theorem eq_of_isUnder (h : run ∈ runs query) (hunder : run.IsUnder column) (h' : other ∈ runs query)
    (hunder' : other.IsUnder column) : run = other := by
  obtain ⟨hlo, hhi⟩ := hunder
  obtain ⟨hlo', hhi'⟩ := hunder'
  obtain ⟨n, rfl⟩ : ∃ n : Nat, column = n := ⟨column.toNat, by omega⟩
  have hle := length_token_le h
  have hle' := length_token_le h'
  exact (isMaximal_of_mem_runs h).eq (isMaximal_of_mem_runs h') (i := n) (by omega) (by omega)

/-- A token is read with what stands in front of the first colon behind its sign, if that is not
empty. -/
theorem Reading.key?_ofToken (token : Text) : (ofToken token).key? =
    (Text.cut? ':' (Sign.split token).2).bind fun p => if p.1.isEmpty then none else some p.1 := by
  simp only [ofToken]
  split
  · next hcut => rw [hcut]; rfl
  · next key written hcut =>
    rw [hcut, Option.bind_some]
    split
    · rfl
    · split
      · rfl
      · split <;> rfl

theorem Reading.key?_eq_some_iff : (ofToken token).key? = some key ↔
    key ≠ [] ∧ ∃ behind, Text.cut? ':' (Sign.split token).2 = some (key, behind) := by
  rw [key?_ofToken, Option.bind_eq_some_iff]
  constructor
  · rintro ⟨⟨typed, behind⟩, hcut, hkey⟩
    split at hkey
    · cases hkey
    · next hne =>
      cases hkey
      exact ⟨by simpa using hne, behind, hcut⟩
  · rintro ⟨hne, behind, hcut⟩
    exact ⟨_, hcut, if_neg (by simpa using hne)⟩

end Query

namespace Document

open Query (Entry Reading Run Sign runs)

variable {line token signs key said shown : Text} {column : Int}

/-! ## Help on a token -/

def note (key said : Text) : Text := "**" ++ key ++ "**: " ++ said

def isSign (c : Char) : Bool := c == '+' || c == '-'

def shownHelp? (token : Text) : Option Text :=
  match Text.cut? ':' (token.dropWhile isSign) with
  | none => none
  | some (key, _) => (help? (Text.lower key)).map (note key)

/-- The help on the key that a token is read with. -/
def readHelp? (token : Text) : Option Text :=
  (Entry.ofToken token).reading.key?.bind fun key => (help? (Text.lower key)).map (note key)

theorem hover?_eq_some_iff : hover? line column = some shown ↔
    ∃ run ∈ runs line, run.IsUnder column ∧ shownHelp? run.token = some shown := by
  rw [hover?]
  cases hfind : (runs line).find? fun run =>
      decide ((run.start : Int) ≤ column ∧ column < run.start + run.token.length) with
  | none =>
    refine iff_of_false nofun ?_
    rintro ⟨run, hrun, hunder, -⟩
    exact absurd (decide_eq_true hunder) (List.find?_eq_none.1 hfind run hrun)
  | some run =>
    have hrun := List.mem_of_find?_eq_some hfind
    have hdecide := List.find?_some hfind
    have hunder : run.IsUnder column := of_decide_eq_true hdecide
    constructor
    · exact fun h => ⟨run, hrun, hunder, h⟩
    · rintro ⟨other, hother, hunder', h⟩
      rw [Query.eq_of_isUnder hrun hunder hother hunder']
      exact h

/-! ## Signs, key and help -/

/-- The token begins with the signs, then the key and a colon, and this is said about the key. -/
structure HasHelp (token signs key said : Text) : Prop where
  eq : ∃ behind, token = signs ++ (key ++ ':' :: behind)
  signs : ∀ c ∈ signs, isSign c = true
  no_colon : ':' ∉ key
  help : help? (Text.lower key) = some said

theorem exists_head_of_help (h : help? (Text.lower key) = some said) :
    ∃ c r, key = c :: r ∧ isSign c = false := by
  have hmem : Text.lower key ∈ keysWithHelp := by
    by_contra hnot
    rw [help?_eq_none_iff.2 hnot] at h
    cases h
  have hall : ∀ k ∈ keysWithHelp, k ≠ [] ∧ k.head?.any isSign = false := by decide
  obtain ⟨hne, hhead⟩ := hall _ hmem
  obtain ⟨c, r, rfl⟩ := List.exists_cons_of_ne_nil (mt Text.lower_eq_nil_iff.2 hne)
  refine ⟨c, r, rfl, ?_⟩
  by_contra hsign
  have hmark : Text.IsMark c := by
    simp only [isSign, Bool.not_eq_false, Bool.or_eq_true, beq_iff_eq] at hsign
    rcases hsign with rfl | rfl <;> decide
  rw [Text.head?_lower_of_mark hmark r] at hhead
  exact hsign hhead

namespace HasHelp

theorem dropWhile_eq (h : HasHelp token signs key said) :
    ∃ behind, token.dropWhile isSign = key ++ ':' :: behind := by
  obtain ⟨behind, rfl⟩ := h.eq
  obtain ⟨c, r, rfl, hc⟩ := exists_head_of_help h.help
  refine ⟨behind, ?_⟩
  rw [List.dropWhile_append_of_pos h.signs, List.cons_append,
    List.dropWhile_cons_of_neg (by simp [hc])]

theorem takeWhile_eq (h : HasHelp token signs key said) : token.takeWhile isSign = signs := by
  obtain ⟨behind, rfl⟩ := h.eq
  obtain ⟨c, r, rfl, hc⟩ := exists_head_of_help h.help
  rw [List.takeWhile_append_of_pos h.signs, List.cons_append,
    List.takeWhile_cons_of_neg (by simp [hc]), List.append_nil]

end HasHelp

/-- The help that is shown is on the key behind all signs. -/
theorem shownHelp?_eq_some_iff :
    shownHelp? token = some shown ↔
      ∃ signs key said, HasHelp token signs key said ∧ note key said = shown := by
  constructor
  · intro h
    unfold shownHelp? at h
    split at h
    · cases h
    · next key behind hcut =>
      obtain ⟨said, hhelp, hnote⟩ := Option.map_eq_some_iff.1 h
      refine ⟨token.takeWhile isSign, key, said,
        ⟨⟨behind, ?_⟩, fun c => List.mem_takeWhile_imp, ?_, hhelp⟩, hnote⟩
      · rw [← Text.cut?_eq_some_append hcut, List.takeWhile_append_dropWhile]
      · exact Text.not_mem_of_cut? hcut
  · rintro ⟨signs, key, said, h, rfl⟩
    obtain ⟨behind, hdrop⟩ := h.dropWhile_eq
    simp only [shownHelp?, hdrop, Text.cut?_append_mark h.no_colon, h.help, Option.map_some]

theorem isSign_of_mem_written {sign : Option Sign} : ∀ c ∈ Sign.written sign, isSign c = true := by
  rcases sign with _ | ⟨_ | _⟩ <;> simp [Sign.written, Sign.mark, isSign]

theorem length_written_le (sign : Option Sign) : (Sign.written sign).length ≤ 1 := by
  rcases sign with _ | ⟨_ | _⟩ <;> decide

theorem HasHelp.split_eq (h : HasHelp token signs key said) (hlen : signs.length ≤ 1) :
    ∃ behind, (Sign.split token).2 = key ++ ':' :: behind := by
  obtain ⟨behind, rfl⟩ := h.eq
  refine ⟨behind, ?_⟩
  match signs, hlen, h.signs with
  | [], _, _ =>
    obtain ⟨c, r, rfl, hc⟩ := exists_head_of_help h.help
    rw [List.nil_append, Sign.split_of_forall_ne]
    intro s hhead
    have hmark : isSign s.mark = true := by cases s <;> rfl
    cases hhead
    rw [hmark] at hc
    cases hc
  | [c], _, hsigns =>
    have hc := hsigns c (by simp)
    simp only [isSign, Bool.or_eq_true, beq_iff_eq] at hc
    rcases hc with rfl | rfl <;> rfl

theorem readHelp?_eq_some_iff :
    readHelp? token = some shown ↔ ∃ signs key said,
      HasHelp token signs key said ∧ signs.length ≤ 1 ∧ note key said = shown := by
  simp only [readHelp?, Option.bind_eq_some_iff, Option.map_eq_some_iff]
  constructor
  · rintro ⟨key, hkey, said, hhelp, hnote⟩
    obtain ⟨-, behind, hcut⟩ := Reading.key?_eq_some_iff.1 hkey
    refine ⟨_, key, said, ⟨⟨behind, ?_⟩, isSign_of_mem_written, Text.not_mem_of_cut? hcut, hhelp⟩,
      length_written_le (Sign.split token).1, hnote⟩
    rw [← Text.cut?_eq_some_append hcut, Sign.written_split]
  · rintro ⟨signs, key, said, h, hlen, hnote⟩
    obtain ⟨behind, hsplit⟩ := h.split_eq hlen
    obtain ⟨c, r, hkey, -⟩ := exists_head_of_help h.help
    refine ⟨key, Reading.key?_eq_some_iff.2 ⟨by simp [hkey], behind, ?_⟩, said, h.help, hnote⟩
    rw [hsplit, Text.cut?_append_mark h.no_colon]

/-! ## Tokens with several signs -/

/-- The token begins with more than one sign, and there is help on the key behind them. -/
def IsOversigned (token : Text) : Prop :=
  ∃ signs key said, HasHelp token signs key said ∧ 1 < signs.length

theorem shownHelp?_eq_readHelp?_iff : shownHelp? token = readHelp? token ↔ ¬ IsOversigned token := by
  constructor
  · rintro h ⟨signs, key, said, hhelp, hlen⟩
    rw [shownHelp?_eq_some_iff.2 ⟨signs, key, said, hhelp, rfl⟩] at h
    obtain ⟨signs', key', said', hhelp', hlen', -⟩ := readHelp?_eq_some_iff.1 h.symm
    rw [← hhelp.takeWhile_eq, hhelp'.takeWhile_eq] at hlen
    omega
  · refine fun h => Option.ext fun shown => ?_
    rw [shownHelp?_eq_some_iff, readHelp?_eq_some_iff]
    constructor
    · rintro ⟨signs, key, said, hhelp, hnote⟩
      have hlen : signs.length ≤ 1 := Nat.le_of_not_lt fun hlt => h ⟨signs, key, said, hhelp, hlt⟩
      exact ⟨signs, key, said, hhelp, hlen, hnote⟩
    · rintro ⟨signs, key, said, hhelp, -, hnote⟩
      exact ⟨signs, key, said, hhelp, hnote⟩

theorem readHelp?_eq_none (hrefused : (Entry.ofToken token).isValid = false)
    (hrepair : (Problem.ofEntry (.ofToken token)).repair = .writeFilter ∨
      (Problem.ofEntry (.ofToken token)).repair = .changeKey) : readHelp? token = none := by
  cases hread : (Entry.ofToken token).reading with
  | keyless =>
    rw [readHelp?, hread]
    rfl
  | valueless key =>
    rw [Problem.ofEntry, hread] at hrepair
    rcases hrepair with h | h <;> cases h
  | refused key value =>
    have hnames := namesRepair_ofKey (not_accepts_of_refused hread).2
    rw [Problem.ofEntry, hread] at hrepair
    have hclosed := hnames.changeKey.1 (hrepair.resolve_left hnames.not_writeFilter)
    have hhelp : help? (Text.lower key) = none := by
      by_contra hne
      obtain ⟨sign, value, haccepts⟩ := help?_ne_none_iff.1 hne
      exact hclosed sign value haccepts
    rw [readHelp?, hread, Reading.key?, Option.bind_some, hhelp]
    rfl
  | accepted key value f =>
    rw [Entry.isValid, Entry.filter?, hread] at hrefused
    cases hrefused

/-! ## Help at a column -/

theorem hover?_eq_shownHelp? {run : Run} (hrun : run ∈ runs line) (hunder : run.IsUnder column) :
    hover? line column = shownHelp? run.token := by
  refine Option.ext fun shown => hover?_eq_some_iff.trans ⟨?_, fun h => ⟨run, hrun, hunder, h⟩⟩
  rintro ⟨other, hother, hunder', h⟩
  rwa [Query.eq_of_isUnder hrun hunder hother hunder']

/-- The help at a column is that on the key with which the token under it is read, just if this token
does not begin with several signs and a key that there is help on. Among the tokens that are reported
for their key, or for having none, it is only on such a token that help is shown. -/
theorem hover_reads_key_iff (line : Text) (column : Int) :
    ((∀ shown, hover? line column = some shown ↔
        ∃ run ∈ runs line, run.IsUnder column ∧ readHelp? run.token = some shown) ↔
      ∀ run ∈ runs line, run.IsUnder column → ¬ IsOversigned run.token) ∧
      ∀ run ∈ runs line, run.IsUnder column → (Entry.ofToken run.token).isValid = false →
        ((Problem.ofEntry (.ofToken run.token)).repair = .writeFilter ∨
          (Problem.ofEntry (.ofToken run.token)).repair = .changeKey) →
        (hover? line column = none ↔ ¬ IsOversigned run.token) := by
  refine ⟨⟨fun h run hrun hunder => ?_, fun h shown => ?_⟩,
    fun run hrun hunder hrefused hrepair => ?_⟩
  · refine shownHelp?_eq_readHelp?_iff.1 (Option.ext fun shown => ?_)
    rw [← hover?_eq_shownHelp? hrun hunder, h]
    constructor
    · rintro ⟨other, hother, hunder', hread⟩
      rwa [Query.eq_of_isUnder hrun hunder hother hunder']
    · exact fun hread => ⟨run, hrun, hunder, hread⟩
  · rw [hover?_eq_some_iff]
    refine exists_congr fun run => and_congr_right fun hrun => and_congr_right fun hunder => ?_
    rw [shownHelp?_eq_readHelp?_iff.2 (h run hrun hunder)]
  · rw [hover?_eq_shownHelp? hrun hunder, ← shownHelp?_eq_readHelp?_iff,
      readHelp?_eq_none hrefused hrepair]

/-- A second sign is taken for a part of the key when the token is read, but not when help is shown. -/
theorem second_sign_is_passed_over :
    hover? "++crate:a" 3 = some "**crate**: Signed axis: include/exclude crates" ∧
      (∀ run ∈ runs "++crate:a", run.IsUnder 3 → readHelp? run.token = none) ∧
      (diagnostics "++crate:a").map (fun d => d.problem) = [.unknownKey "+crate"] := by
  decide

end Document

end FilterBar
