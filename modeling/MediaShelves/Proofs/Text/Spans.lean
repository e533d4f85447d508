import MediaShelves.Text.Blank
import MediaShelves.Text.Cut

/-!
# Texts in parts

A text that is written as parts, one after another, is read back as these parts wherever the
character after a part shows where it ends.  Blanks around a part that has none are trimmed
(`IsSolid.trim_eq`).
-/

namespace MediaShelves.Text

/-! ## Characters of a class -/

/-- A test of all characters in a text goes through the text, and not through all characters. -/
instance (priority := high) decidableForallMem {p : Char → Prop} [DecidablePred p] (s : List Char) :
    Decidable (∀ c ∈ s, p c) :=
  List.decidableBAll p s

/-- So does a test of the only character that there may be. -/
instance (priority := high) decidableForallMemOption {p : Char → Prop} [DecidablePred p]
    (o : Option Char) : Decidable (∀ c ∈ o, p c) :=
  Option.decidableForallMem o

section

variable {p : Char → Bool} {s rest : List Char} (hs : ∀ c ∈ s, p c = true)
  (hrest : ∀ c, rest.head? = some c → p c = false)

include hrest

/-- A text goes on with a class no further than to a rest that does not. -/
theorem takeWhile_append_of_head : (s ++ rest).takeWhile p = s.takeWhile p := by
  have hstop : rest.takeWhile p = [] := by
    cases rest with
    | nil => rfl
    | cons c rest => simp [hrest c rfl]
  rw [List.takeWhile_append, hstop, List.append_nil]
  -- The first part is taken whole or not, and in either case nothing behind it is.
  split
  · rename_i hlength
    exact ((List.takeWhile_prefix p).eq_of_length hlength).symm
  · rfl

include hs

theorem takeWhile_append_of_stop : (s ++ rest).takeWhile p = s := by
  have hall : (s ++ []).takeWhile p = s ++ [] := List.takeWhile_append_of_pos hs
  rw [takeWhile_append_of_head hrest]
  rwa [List.append_nil] at hall

theorem dropWhile_append_of_stop : (s ++ rest).dropWhile p = rest := by
  rw [List.dropWhile_append_of_pos hs]
  cases rest with
  | nil => rfl
  | cons c rest => simp [hrest c rfl]

end

/-- What begins a text begins with no more of a class than the text. -/
theorem mem_takeWhile_of_prefix {p : Char → Bool} {s t : List Char} (h : s <+: t) {c : Char}
    (hc : c ∈ s.takeWhile p) : c ∈ t.takeWhile p := by
  obtain ⟨rest, rfl⟩ := h
  rw [List.takeWhile_append]
  split
  · exact List.mem_append_left _ ((List.takeWhile_prefix p).subset hc)
  · exact hc

/-! ## Blanks in front -/

/-- Whether a text begins with a character that is not blank. -/
def BeginsVisibly (s : List Char) : Prop :=
  ∃ c rest, s = c :: rest ∧ isBlank c = false

theorem BeginsVisibly.head? {s : List Char} (h : BeginsVisibly s) {c : Char}
    (hc : s.head? = some c) : isBlank c = false := by
  obtain ⟨d, rest, rfl, hd⟩ := h
  cases hc
  exact hd

theorem BeginsVisibly.append {s : List Char} (h : BeginsVisibly s) (rest : List Char) :
    BeginsVisibly (s ++ rest) := by
  obtain ⟨c, s, rfl, hc⟩ := h
  exact ⟨c, s ++ rest, rfl, hc⟩

theorem beginsVisibly_trimFront {s : List Char} (h : trimFront s ≠ []) :
    BeginsVisibly (trimFront s) := by
  obtain ⟨c, rest, hs⟩ := List.exists_cons_of_ne_nil h
  exact ⟨c, rest, hs, isBlank_head_trimFront hs⟩

/-- Blanks in front of something visible are what is dropped. -/
theorem trimFront_append {gap s : List Char} (hgap : ∀ c ∈ gap, isBlank c = true)
    (hs : BeginsVisibly s) : trimFront (gap ++ s) = s :=
  dropWhile_append_of_stop hgap fun _ hc => hs.head? hc

/-! ## Blanks behind -/

/-- Whether a text ends with a character that is not blank. -/
def EndsVisibly (s : List Char) : Prop :=
  ∃ front c, s = front ++ [c] ∧ isBlank c = false

/-- Whatever stands before something visible stays. -/
theorem trimBack_append {s : List Char} (hs : EndsVisibly s) (rest : List Char) :
    trimBack (s ++ rest) = s ++ trimBack rest := by
  obtain ⟨front, c, rfl, hc⟩ := hs
  simp only [trimBack, List.reverse_append, List.dropWhile_append]
  split
  · rename_i hempty
    simp [hc, List.isEmpty_iff.1 hempty]
  · simp

theorem EndsVisibly.append_left {s : List Char} (h : EndsVisibly s) (front : List Char) :
    EndsVisibly (front ++ s) := by
  obtain ⟨s, c, rfl, hc⟩ := h
  exact ⟨front ++ s, c, (List.append_assoc _ _ _).symm, hc⟩

theorem trimFront_of_blank {s : List Char} (hs : ∀ c ∈ s, isBlank c = true) : trimFront s = [] := by
  have hall : (s ++ []).dropWhile isBlank = [] :=
    dropWhile_append_of_stop hs fun _ hc => nomatch hc
  rwa [List.append_nil] at hall

theorem isPrefix_trimBack (s : List Char) : trimBack s <+: s := by
  obtain ⟨back, -, hs⟩ := exists_eq_trimBack_append s
  exact ⟨back, hs.symm⟩

theorem trimBack_of_blank {s : List Char} (hs : ∀ c ∈ s, isBlank c = true) : trimBack s = [] := by
  rw [trimBack_eq, trimFront_of_blank fun c hc => hs c (List.mem_reverse.1 hc)]
  rfl

theorem trim_of_blank {s : List Char} (hs : ∀ c ∈ s, isBlank c = true) : trim s = [] := by
  rw [trim, trimFront_of_blank hs]
  rfl

/-- Trimming leaves what is visible at both ends, and of the rest all but the blanks behind. -/
theorem trim_append {gap s : List Char} (hgap : ∀ c ∈ gap, isBlank c = true)
    (hbegin : BeginsVisibly s) (hend : EndsVisibly s) (rest : List Char) :
    trim (gap ++ (s ++ rest)) = s ++ trimBack rest := by
  rw [trim, trimFront_append hgap (hbegin.append rest), trimBack_append hend]

/-! ## Texts without blanks -/

/-- Whether a text has characters and none of them is blank. -/
def IsSolid (s : List Char) : Prop :=
  s ≠ [] ∧ ∀ c ∈ s, isBlank c = false

theorem IsSolid.beginsVisibly {s : List Char} (h : IsSolid s) : BeginsVisibly s := by
  obtain ⟨c, rest, rfl⟩ := List.exists_cons_of_ne_nil h.1
  exact ⟨c, rest, rfl, h.2 c (by simp)⟩

theorem IsSolid.endsVisibly {s : List Char} (h : IsSolid s) : EndsVisibly s :=
  ⟨s.dropLast, s.getLast h.1, (List.dropLast_concat_getLast h.1).symm,
    h.2 _ (List.getLast_mem h.1)⟩

/-- Blanks around a text without blanks are trimmed. -/
theorem IsSolid.trim_eq {s : List Char} (h : IsSolid s) {front back : List Char}
    (hfront : ∀ c ∈ front, isBlank c = true) (hback : ∀ c ∈ back, isBlank c = true) :
    trim (front ++ (s ++ back)) = s := by
  rw [trim_append hfront h.beginsVisibly h.endsVisibly, trimBack_of_blank hback, List.append_nil]

theorem isBlank_of_isDigit {c : Char} (h : c.isDigit = true) : isBlank c = false := by
  have hdigit : 48 ≤ c.toNat ∧ c.toNat ≤ 57 := Char.isDigit_iff_toNat.1 h
  simp only [isBlank, Bool.or_eq_false_iff, Bool.and_eq_false_iff, decide_eq_false_iff_not,
    beq_eq_false_iff_ne]
  omega

theorem isSolid_of_digits {s : List Char} (hne : s ≠ []) (hs : ∀ c ∈ s, c.isDigit = true) :
    IsSolid s :=
  ⟨hne, fun c hc => isBlank_of_isDigit (hs c hc)⟩

/-! ## The first and the last mark -/

/-- A cut at the first mark leaves none before it. -/
theorem cutFirst?_of_not_mem {mark : Char} {before : List Char} (h : mark ∉ before)
    (after : List Char) : cutFirst? mark (before ++ mark :: after) = some (before, after) := by
  induction before with
  | nil => simp [cutFirst?]
  | cons c before ih =>
    obtain ⟨hc, hbefore⟩ := not_or.1 (mt List.mem_cons.2 h)
    simp [cutFirst?, Ne.symm hc, ih hbefore]

theorem cutLast?_eq_none_iff {mark : Char} {s : List Char} :
    cutLast? mark s = none ↔ mark ∉ s := by
  induction s with
  | nil => simp [cutLast?]
  | cons c rest ih =>
    simp only [cutLast?, List.mem_cons, not_or, ← ih]
    cases cutLast? mark rest with
    | none => simp [eq_comm]
    | some parts => simp

/-- A cut at the last mark leaves none after it. -/
theorem cutLast?_eq_some_iff {mark : Char} {s before after : List Char} :
    cutLast? mark s = some (before, after) ↔ s = before ++ mark :: after ∧ mark ∉ after := by
  constructor
  · intro h
    -- The text is cut at the first mark only if there is none in the rest.
    refine ⟨eq_of_cutLast? h, ?_⟩
    induction s generalizing before with
    | nil => simp [cutLast?] at h
    | cons c rest ih =>
      simp only [cutLast?] at h
      split at h
      · rename_i b a hr
        simp only [Option.some.injEq, Prod.mk.injEq] at h
        obtain ⟨-, rfl⟩ := h
        exact ih hr
      · rename_i hnone
        split at h
        · simp only [Option.some.injEq, Prod.mk.injEq] at h
          obtain ⟨-, rfl⟩ := h
          exact cutLast?_eq_none_iff.1 hnone
        · cases h
  · rintro ⟨rfl, hafter⟩
    induction before with
    | nil => simp [cutLast?, cutLast?_eq_none_iff.2 hafter]
    | cons c before ih => simp [cutLast?, ih]

end MediaShelves.Text
