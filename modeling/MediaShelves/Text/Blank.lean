/-!
# Blank characters

The characters that count as white space, and trimming.  Trimming removes blanks only
(`exists_eq_append_trim`) and leaves none at the ends (`isBlank_head_trim`, `isBlank_last_trim`).
-/

namespace MediaShelves.Text

/-! ## The class -/

/-- White space: the ASCII blanks, the separators, and the fixed-width spaces. -/
def isBlank (c : Char) : Bool :=
  let n := c.toNat
  (decide (0x9 ≤ n) && decide (n ≤ 0xD)) || n == 0x20 || n == 0x85 || n == 0xA0 || n == 0x1680 ||
    (decide (0x2000 ≤ n) && decide (n ≤ 0x200A)) || n == 0x2028 || n == 0x2029 || n == 0x202F ||
    n == 0x205F || n == 0x3000

/-- Every ASCII blank is blank. -/
theorem isBlank_of_isWhitespace {c : Char} (h : c.isWhitespace = true) : isBlank c = true := by
  simp only [Char.isWhitespace, Bool.or_eq_true, decide_eq_true_eq] at h
  rcases h with ((h | h) | h) | h <;> subst h <;> decide

/-! ## Trimming -/

/-- Drops blanks from the front. -/
def trimFront (s : List Char) : List Char :=
  s.dropWhile isBlank

/-- Drops blanks from the back. -/
def trimBack (s : List Char) : List Char :=
  (s.reverse.dropWhile isBlank).reverse

/-- Drops blanks from both ends. -/
def trim (s : List Char) : List Char :=
  trimBack (trimFront s)

/-- `trim` for strings. -/
def trimString (s : String) : String :=
  String.ofList (trim s.toList)

/-! ## Laws -/

/-- What is left of the front begins with no blank. -/
theorem isBlank_head_trimFront {s rest : List Char} {c : Char} (h : trimFront s = c :: rest) :
    isBlank c = false := by
  induction s with
  | nil => simp [trimFront] at h
  | cons d s ih =>
    by_cases hd : isBlank d = true
    · exact ih (by simpa [trimFront, hd] using h)
    · simp only [trimFront, List.dropWhile_cons, hd] at h
      simp_all

/-- The front loses blanks only. -/
theorem exists_eq_append_trimFront (s : List Char) :
    ∃ front, (∀ c ∈ front, isBlank c = true) ∧ s = front ++ trimFront s := by
  induction s with
  | nil => exact ⟨[], by simp, rfl⟩
  | cons d s ih =>
    by_cases hd : isBlank d = true
    · obtain ⟨front, hfront, hs⟩ := ih
      refine ⟨d :: front, by simpa [hd] using hfront, ?_⟩
      simpa [trimFront, hd] using hs
    · exact ⟨[], by simp, by simp [trimFront, hd]⟩

/-- The back is trimmed as the front of the reversed text. -/
theorem trimBack_eq (s : List Char) : trimBack s = (trimFront s.reverse).reverse := rfl

/-- The back loses blanks only. -/
theorem exists_eq_trimBack_append (s : List Char) :
    ∃ back, (∀ c ∈ back, isBlank c = true) ∧ s = trimBack s ++ back := by
  obtain ⟨front, hfront, hs⟩ := exists_eq_append_trimFront s.reverse
  refine ⟨front.reverse, by simpa using hfront, ?_⟩
  rw [trimBack_eq, ← List.reverse_append, ← hs, List.reverse_reverse]

/-- What is left of the back ends with no blank. -/
theorem isBlank_last_trimBack {s : List Char} {c : Char} (h : (trimBack s).getLast? = some c) :
    isBlank c = false := by
  rw [trimBack_eq, List.getLast?_reverse] at h
  obtain ⟨rest, hrest⟩ := List.head?_eq_some_iff.1 h
  exact isBlank_head_trimFront hrest

/-- Trimming drops blanks only. -/
theorem exists_eq_append_trim (s : List Char) :
    ∃ front back, (∀ c ∈ front, isBlank c = true) ∧ (∀ c ∈ back, isBlank c = true) ∧
      s = front ++ trim s ++ back := by
  obtain ⟨front, hfront, hs⟩ := exists_eq_append_trimFront s
  obtain ⟨back, hback, ht⟩ := exists_eq_trimBack_append (trimFront s)
  refine ⟨front, back, hfront, hback, ?_⟩
  rw [List.append_assoc]
  exact hs.trans (congrArg _ ht)

/-- A trimmed text begins with no blank. -/
theorem isBlank_head_trim {s rest : List Char} {c : Char} (h : trim s = c :: rest) :
    isBlank c = false := by
  obtain ⟨back, _, ht⟩ := exists_eq_trimBack_append (trimFront s)
  have hfront : trimFront s = c :: (rest ++ back) := by
    rw [ht]
    exact congrArg (· ++ back) h
  exact isBlank_head_trimFront hfront

/-- A trimmed text ends with no blank. -/
theorem isBlank_last_trim {s : List Char} {c : Char} (h : (trim s).getLast? = some c) :
    isBlank c = false :=
  isBlank_last_trimBack h

end MediaShelves.Text
