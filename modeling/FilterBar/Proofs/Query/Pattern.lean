import FilterBar.Proofs.Query.Runs

/-!
# The pattern of a run

A run can also be given as a regular expression: one or more of an escape, a quotation, and a
character that is neither a blank nor a mark. Matching is greedy and goes back where it has to:
`Pattern.rests` lists what each match leaves, in the order in which the matches are tried, and
`first?` is the first of them.

`first?_run` says that the first match of the pattern is the run in front of a text, and
`lexFrom_run` that trying the pattern from place to place finds the runs of a text.
-/

namespace FilterBar.Query

open Scan (plain)

/-- A regular expression over characters. An option and a repetition match as much as they can. -/
inductive Pattern where
  | char (p : Char → Bool)
  | seq (p q : Pattern)
  | alt (p q : Pattern)
  | opt (p : Pattern)
  | star (p : Pattern)

namespace Pattern

/-! ## Matches -/

/-- What up to `n` matches in a row leave, longer rows first. Each match takes a character. -/
def repeated (rests : Text → List Text) : Nat → Text → List Text
  | 0, t => [t]
  | n + 1, t => ((rests t).filter (·.length < t.length)).flatMap (repeated rests n) ++ [t]

/-- What the matches of a pattern at the beginning of a text leave, in the order in which they are
tried. -/
def rests : Pattern → Text → List Text
  | .char _, [] => []
  | .char p, c :: r => if p c then [r] else []
  | .seq p q, t => (p.rests t).flatMap q.rests
  | .alt p q, t => p.rests t ++ q.rests t
  | .opt p, t => p.rests t ++ [t]
  | .star p, t => repeated p.rests t.length t

/-- What the match that is tried first leaves. -/
def first? (p : Pattern) (t : Text) : Option Text := (p.rests t).head?

/-- Whether every match takes a character, read off the pattern. -/
def takesOne : Pattern → Bool
  | .char _ => true
  | .seq p q => p.takesOne || q.takesOne
  | .alt p q => p.takesOne && q.takesOne
  | .opt _ => false
  | .star _ => false

variable {p q : Pattern} {t r : Text}

/-- No text has room for more matches than it has characters. -/
theorem repeated_congr (m : Text → List Text) {n k : Nat} (hn : t.length ≤ n) (hk : t.length ≤ k) :
    repeated m n t = repeated m k t := by
  induction n generalizing k t with
  | zero =>
    obtain rfl := List.eq_nil_of_length_eq_zero (Nat.le_zero.1 hn)
    cases k <;> simp [repeated]
  | succ n ih =>
    cases k with
    | zero =>
      obtain rfl := List.eq_nil_of_length_eq_zero (Nat.le_zero.1 hk)
      simp [repeated]
    | succ k =>
      simp only [repeated, List.append_cancel_right_eq]
      refine List.flatMap_congr fun r hr => ?_
      have hlt : r.length < t.length := by simpa using (List.mem_filter.1 hr).2
      exact ih (by omega) (by omega)

theorem rests_star (p : Pattern) (t : Text) : (star p).rests t =
    ((p.rests t).filter (·.length < t.length)).flatMap (star p).rests ++ [t] := by
  rw [rests, repeated_congr p.rests (Nat.le_refl _) (Nat.le_succ t.length), repeated]
  refine congrArg (· ++ [t]) (List.flatMap_congr fun r hr => ?_)
  have hlt : r.length < t.length := by simpa using (List.mem_filter.1 hr).2
  rw [rests, repeated_congr p.rests (Nat.le_of_lt hlt) (Nat.le_refl _)]

theorem suffix_of_mem_repeated {m : Text → List Text} (hm : ∀ t, ∀ r ∈ m t, r <:+ t) {n : Nat}
    (h : r ∈ repeated m n t) : r <:+ t := by
  induction n generalizing t with
  | zero =>
    obtain rfl := List.mem_singleton.1 h
    exact List.suffix_rfl
  | succ n ih =>
    rcases List.mem_append.1 h with h | h
    · obtain ⟨u, hu, hr⟩ := List.mem_flatMap.1 h
      exact (ih hr).trans (hm t u (List.mem_of_mem_filter hu))
    · obtain rfl := List.mem_singleton.1 h
      exact List.suffix_rfl

theorem suffix_of_mem_rests (h : r ∈ p.rests t) : r <:+ t := by
  induction p generalizing t r with
  | char p =>
    cases t with
    | nil => cases h
    | cons c u =>
      simp only [rests] at h
      split at h
      · obtain rfl := List.mem_singleton.1 h
        exact List.suffix_cons c r
      · cases h
  | seq p q hp hq =>
    obtain ⟨u, hu, hr⟩ := List.mem_flatMap.1 h
    exact (hq hr).trans (hp hu)
  | alt p q hp hq => exact (List.mem_append.1 h).elim hp hq
  | opt p hp =>
    rcases List.mem_append.1 h with h | h
    · exact hp h
    · obtain rfl := List.mem_singleton.1 h
      exact List.suffix_rfl
  | star p hp => exact suffix_of_mem_repeated (fun _ _ => hp) h

theorem length_lt_of_mem_rests (hp : p.takesOne = true) (h : r ∈ p.rests t) :
    r.length < t.length := by
  induction p generalizing t r with
  | char p =>
    cases t with
    | nil => cases h
    | cons c u =>
      simp only [rests] at h
      split at h
      · obtain rfl := List.mem_singleton.1 h
        simp
      · cases h
  | seq p q ihp ihq =>
    obtain ⟨u, hu, hr⟩ := List.mem_flatMap.1 h
    have hule := (suffix_of_mem_rests hu).length_le
    have hrle := (suffix_of_mem_rests hr).length_le
    rcases Bool.or_eq_true_iff.1 hp with hp | hq
    · have := ihp hp hu
      omega
    · have := ihq hq hr
      omega
  | alt p q ihp ihq =>
    obtain ⟨hp, hq⟩ := Bool.and_eq_true_iff.1 hp
    exact (List.mem_append.1 h).elim (ihp hp) (ihq hq)
  | opt p => cases hp
  | star p => cases hp

/-! ## First matches -/

theorem head?_flatMap {α β : Type} {f : α → List β} (hf : ∀ a, f a ≠ []) (l : List α) :
    (l.flatMap f).head? = l.head?.bind fun a => (f a).head? := by
  cases l with
  | nil => rfl
  | cons a l =>
    rw [List.flatMap_cons, List.head?_append_of_ne_nil _ (hf a)]
    rfl

theorem rests_opt_ne_nil (p : Pattern) (t : Text) : (opt p).rests t ≠ [] := by simp [rests]

theorem rests_star_ne_nil (p : Pattern) (t : Text) : (star p).rests t ≠ [] := by
  rw [rests_star]
  simp

theorem first?_char (p : Char → Bool) (c : Char) (r : Text) :
    (char p).first? (c :: r) = if p c then some r else none := by
  cases h : p c <;> simp [first?, rests, h]

theorem first?_seq (hq : ∀ t, q.rests t ≠ []) (t : Text) :
    (seq p q).first? t = (p.first? t).bind q.first? :=
  head?_flatMap hq _

theorem first?_alt (p q : Pattern) (t : Text) :
    (alt p q).first? t = (p.first? t).or (q.first? t) := by
  simp [first?, rests, List.head?_append]

theorem first?_opt (p : Pattern) (t : Text) : (opt p).first? t = some ((p.first? t).getD t) := by
  cases h : p.rests t <;> simp [first?, rests, h]

theorem first?_star (hp : p.takesOne = true) (t : Text) :
    (star p).first? t = (p.first? t).elim (some t) (star p).first? := by
  have hall : (p.rests t).filter (·.length < t.length) = p.rests t :=
    List.filter_eq_self.2 fun r hr => by simpa using length_lt_of_mem_rests hp hr
  rw [first?, rests_star, hall, List.head?_append, head?_flatMap (rests_star_ne_nil p)]
  cases h : p.first? t with
  | none =>
    rw [first?] at h
    simp [h]
  | some r =>
    obtain ⟨u, hu⟩ := Option.isSome_iff_exists.1 (List.isSome_head?.2 (rests_star_ne_nil p r))
    rw [first?] at h
    simp [h, hu, first?]

/-! ## The pattern of a run -/

def escapePair : Pattern := .seq (.char (· == '\\')) (.opt (.char fun _ => true))

/-- What may stand inside a quotation. -/
def quotedPiece : Pattern := .alt escapePair (.char fun c => c != '"' && c != '\\')

/-- What may follow an opening double quote: as much as may stand inside, and a closing one. -/
def quotationRest : Pattern := .seq (.star quotedPiece) (.opt (.char (· == '"')))

def quotation : Pattern := .seq (.char (· == '"')) quotationRest

/-- An escape, a quotation, or a character that is neither a blank nor a mark. -/
def piece : Pattern :=
  .alt escapePair (.alt quotation (.char fun c => !Text.isBlank c && c != '"' && c != '\\'))

def run : Pattern := .seq piece (.star piece)

theorem first?_escapePair (c : Char) (r : Text) :
    escapePair.first? (c :: r) = if c = '\\' then some r.tail else none := by
  rw [escapePair, first?_seq (rests_opt_ne_nil _), first?_char]
  by_cases hc : c = '\\'
  · cases r with
    | nil => simp [hc, first?, rests]
    | cons d r => simp [hc, first?_opt, first?_char]
  · simp [hc]

theorem first?_quotedPiece (c : Char) (r : Text) : quotedPiece.first? (c :: r) =
    if c = '\\' then some r.tail else if c = '"' then none else some r := by
  rw [quotedPiece, first?_alt, first?_escapePair, first?_char]
  by_cases hs : c = '\\'
  · simp [hs]
  · by_cases hq : c = '"' <;> simp [hs, hq]

/-- A backslash and the character behind it leave a scan where it was. -/
theorem span_slash (quoted : Bool) (r : Text) :
    ((⟨quoted, false⟩ : Scan).span ('\\' :: r)).2 = ((⟨quoted, false⟩ : Scan).span r.tail).2 := by
  rw [Scan.span_cons_of_not_ends (Scan.not_ends_of_not_blank _ (by decide))]
  cases r with
  | nil => rfl
  | cons d r =>
    have hd : ((⟨quoted, false⟩ : Scan).step '\\').ends d = false := by
      cases quoted <;> simp [Scan.step, Scan.ends]
    rw [Scan.span_cons_of_not_ends hd]
    cases quoted <;> rfl

theorem first?_quotationRest (t : Text) : quotationRest.first? t =
    (quotedPiece.first? t).elim ((opt (.char (· == '"'))).first? t) quotationRest.first? := by
  have hstar := first?_star (p := quotedPiece) rfl t
  rw [quotationRest, first?_seq (rests_opt_ne_nil _), hstar]
  cases quotedPiece.first? t with
  | none => rfl
  | some r => exact (first?_seq (rests_opt_ne_nil _) r).symm

theorem exists_first?_quotationRest (t : Text) : ∃ u, quotationRest.first? t = some u ∧
    u.length ≤ t.length ∧ ((⟨true, false⟩ : Scan).span t).2 = (plain.span u).2 := by
  induction hn : t.length using Nat.strong_induction_on generalizing t with
  | _ n ih =>
    rw [first?_quotationRest]
    cases t with
    | nil => exact ⟨[], rfl, Nat.zero_le _, rfl⟩
    | cons c r =>
      rw [first?_quotedPiece]
      have hlen : (c :: r).length = r.length + 1 := rfl
      by_cases hs : c = '\\'
      · subst hs
        obtain ⟨u, hu, hle, hspan⟩ := ih r.tail.length (by rw [List.length_tail]; omega) r.tail rfl
        rw [List.length_tail] at hle
        exact ⟨u, by simpa using hu, by omega, (span_slash true r).trans hspan⟩
      · by_cases hq : c = '"'
        · subst hq
          refine ⟨r, by simp [first?_opt, first?_char], by omega, ?_⟩
          rw [Scan.span_cons_of_not_ends rfl]
          rfl
        · obtain ⟨u, hu, hle, hspan⟩ := ih r.length (by omega) r rfl
          have hstep : (⟨true, false⟩ : Scan).step c = ⟨true, false⟩ := by simp [Scan.step, hs, hq]
          refine ⟨u, by simpa [hs, hq] using hu, by omega, ?_⟩
          rw [Scan.span_cons_of_not_ends rfl, hstep]
          exact hspan

theorem first?_quotation (c : Char) (r : Text) :
    quotation.first? (c :: r) = if c = '"' then quotationRest.first? r else none := by
  have hmatch : ∀ t, quotationRest.rests t ≠ [] := fun t h => by
    obtain ⟨u, hu, -⟩ := exists_first?_quotationRest t
    simp [first?, h] at hu
  rw [quotation, first?_seq hmatch, first?_char]
  by_cases hq : c = '"' <;> simp [hq]

theorem first?_piece (c : Char) (r : Text) : piece.first? (c :: r) =
    if c = '\\' then some r.tail else if c = '"' then quotationRest.first? r
    else if Text.isBlank c then none else some r := by
  rw [piece, first?_alt, first?_alt, first?_escapePair, first?_quotation, first?_char]
  by_cases hs : c = '\\'
  · simp [hs]
  · by_cases hq : c = '"'
    · simp [hq]
    · by_cases hb : Text.isBlank c = true <;> simp [hs, hq, hb]

theorem first?_pieces (t : Text) : (star piece).first? t = some (plain.span t).2 := by
  induction hn : t.length using Nat.strong_induction_on generalizing t with
  | _ n ih =>
    rw [first?_star rfl]
    cases t with
    | nil => rfl
    | cons c r =>
      rw [first?_piece]
      have hlen : (c :: r).length = r.length + 1 := rfl
      by_cases hs : c = '\\'
      · subst hs
        have hrest := ih r.tail.length (by rw [List.length_tail]; omega) r.tail rfl
        have hspan : (plain.span ('\\' :: r)).2 = (plain.span r.tail).2 := span_slash false r
        simp [hrest, hspan]
      · by_cases hq : c = '"'
        · subst hq
          obtain ⟨u, hu, hle, hspan⟩ := exists_first?_quotationRest r
          have hopen : (plain.span ('"' :: r)).2 = ((⟨true, false⟩ : Scan).span r).2 := by
            rw [Scan.span_cons_of_not_ends rfl]
            rfl
          simp [hu, ih u.length (by omega) u rfl, hopen, hspan]
        · cases hb : Text.isBlank c with
          | true =>
            rw [Scan.span_cons_of_ends ((Scan.ends_iff_of_blank hb).2 rfl)]
            simp [hs, hq]
          | false =>
            have hstep : plain.step c = plain := by simp [Scan.step, plain, hs, hq]
            rw [Scan.span_cons_of_not_ends (Scan.not_ends_of_not_blank plain hb), hstep]
            simp [hs, hq, ih r.length (by omega) r rfl]

/-- At a blank the pattern of a run does not match. Elsewhere it matches the run first. -/
theorem first?_run (c : Char) (r : Text) :
    run.first? (c :: r) = if Text.isBlank c then none else some (plain.span (c :: r)).2 := by
  have hpieces := first?_star (p := piece) rfl (c :: r)
  rw [first?_pieces] at hpieces
  rw [run, first?_seq (rests_star_ne_nil piece)]
  cases hb : Text.isBlank c with
  | true =>
    have hs : c ≠ '\\' := ne_of_isBlank hb rfl
    have hq : c ≠ '"' := ne_of_isBlank hb rfl
    simp [first?_piece, hs, hq, hb]
  | false =>
    cases hp : piece.first? (c :: r) with
    | none =>
      -- Then no piece would match, and the run in front would be empty.
      obtain ⟨u, rest, hcut, hlead⟩ := exists_leads hb r
      rw [hp, hcut, hlead.span] at hpieces
      have hsame : u ++ rest = rest := Option.some.inj hpieces.symm
      exact absurd (List.append_left_eq_self.1 hsame) hlead.ne_nil
    | some u => simpa [hp] using hpieces.symm

/-! ## Runs by matching -/

/-- The blanks that are passed over without trying the pattern. -/
def isPassedOver (c : Char) : Bool := c ∈ [' ', '\t', '\r', '\n', '\x0c', '\x0b']

/-- The matches in a text from left to right, each at its offset. A character where the pattern does
not match is passed over too. -/
def lexFrom (p : Pattern) (offset : Nat) (t : Text) : List Run :=
  match t with
  | [] => []
  | c :: r =>
    if isPassedOver c then lexFrom p (offset + 1) r
    else
      match p.first? (c :: r) with
      | none => lexFrom p (offset + 1) r
      | some rest =>
        let n := (c :: r).length - rest.length
        if rest.length < (c :: r).length then
          ⟨offset, (c :: r).take n⟩ :: lexFrom p (offset + n) rest
        else []
termination_by t.length
decreasing_by
  · exact Nat.lt_succ_self r.length
  · exact Nat.lt_succ_self r.length
  · assumption

theorem isBlank_of_isPassedOver {c : Char} (h : isPassedOver c = true) : Text.isBlank c = true := by
  simp only [isPassedOver, List.mem_cons, List.not_mem_nil, or_false, decide_eq_true_eq] at h
  rcases h with rfl | rfl | rfl | rfl | rfl | rfl <;> rfl

theorem lexFrom_run (o : Nat) (t : Text) : run.lexFrom o t = (runsFrom o none t).2 := by
  induction t using run_induction generalizing o with
  | nil => simp [lexFrom, runsFrom]
  | blank b r hb ih =>
    rw [lexFrom, first?_run, runsFrom_cons_of_blank o hb]
    simp [hb, ih]
  | run u rest hlead ih =>
    rw [hlead.runsFrom]
    obtain ⟨c, r, rfl, hc⟩ := hlead.head
    have hskip : isPassedOver c = false :=
      Bool.eq_false_iff.2 fun h => ne_of_isBlank (isBlank_of_isPassedOver h) hc rfl
    have hfirst : run.first? (c :: (r ++ rest)) = some rest := by
      rw [first?_run, ← List.cons_append, hlead.span]
      simp [hc]
    have hlen : (c :: r ++ rest).length - rest.length = (c :: r).length := by
      rw [List.length_append, Nat.add_sub_cancel]
    have hlt : rest.length < (c :: r ++ rest).length := by
      rw [List.length_append, List.length_cons]
      omega
    rw [List.cons_append] at hlen hlt ⊢
    rw [lexFrom, hskip, hfirst]
    simp only [Bool.false_eq_true, if_false, hlt, if_true, hlen, ih]
    rw [← List.cons_append, List.take_left]

end Pattern

end FilterBar.Query
