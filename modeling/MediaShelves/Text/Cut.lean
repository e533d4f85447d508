/-!
# Cutting texts

Cuts at the first or last occurrence of a character, and removal of a given beginning.
-/

namespace MediaShelves.Text

/-- The parts before and after the first `mark`. -/
def cutFirst? (mark : Char) : List Char → Option (List Char × List Char)
  | [] => none
  | c :: rest =>
    if c = mark then some ([], rest)
    else (cutFirst? mark rest).map fun (before, after) => (c :: before, after)

/-- The parts before and after the last `mark`. -/
def cutLast? (mark : Char) : List Char → Option (List Char × List Char)
  | [] => none
  | c :: rest =>
    match cutLast? mark rest with
    | some (before, after) => some (c :: before, after)
    | none => if c = mark then some ([], rest) else none

/-- What follows `start` at the front of a text. -/
def dropStart? : (start s : List Char) → Option (List Char)
  | [], s => some s
  | _ :: _, [] => none
  | a :: start, c :: s => if a = c then dropStart? start s else none

/-- A cut loses the mark only. -/
theorem eq_of_cutFirst? {mark : Char} {s before after : List Char}
    (h : cutFirst? mark s = some (before, after)) : s = before ++ mark :: after := by
  induction s generalizing before with
  | nil => simp [cutFirst?] at h
  | cons c rest ih =>
    simp only [cutFirst?] at h
    split at h
    · simp_all
    · obtain ⟨⟨b, a⟩, hb, he⟩ := Option.map_eq_some_iff.1 h
      simp only [Prod.mk.injEq] at he
      obtain ⟨rfl, rfl⟩ := he
      simp [ih hb]

/-- A cut loses the mark only. -/
theorem eq_of_cutLast? {mark : Char} {s before after : List Char}
    (h : cutLast? mark s = some (before, after)) : s = before ++ mark :: after := by
  induction s generalizing before after with
  | nil => simp [cutLast?] at h
  | cons c rest ih =>
    simp only [cutLast?] at h
    split at h
    · rename_i b a hr
      simp only [Option.some.injEq, Prod.mk.injEq] at h
      obtain ⟨rfl, rfl⟩ := h
      simp [ih hr]
    · split at h
      · simp_all
      · simp at h

/-- What is left after a beginning is removed. -/
theorem dropStart?_eq_some_iff {start s rest : List Char} :
    dropStart? start s = some rest ↔ s = start ++ rest := by
  induction start generalizing s with
  | nil => simp [dropStart?, eq_comm]
  | cons a start ih =>
    cases s with
    | nil => simp [dropStart?]
    | cons c s =>
      by_cases h : a = c
      · simp [dropStart?, h, ih]
      · simp [dropStart?, h, Ne.symm h]

end MediaShelves.Text
