import MediaShelves.Proofs.Text.Spans

/-!
# Parts between marks

What it means that a text is trimmed, or cut into parts, said by what the parts are put together to:
blanks around a text that has none at its ends (`Trims`), and parts without marks, with a mark between
each two of them (`Parts`).  A text has one such form only, and it is the one that `trim` and `splitOnP`
find.

Main statements: `trims_iff` and `parts_iff`.
-/

namespace MediaShelves.Text

/-! ## Trimmed texts -/

/-- A text is another one, which has no blank at its ends, with blanks around it. -/
inductive Trims : List Char → List Char → Prop where
  | intro {front s back : List Char} (hfront : ∀ c ∈ front, isBlank c = true)
      (hback : ∀ c ∈ back, isBlank c = true) (hbegin : ∀ c, s.head? = some c → isBlank c = false)
      (hend : ∀ c, s.getLast? = some c → isBlank c = false) : Trims (front ++ (s ++ back)) s

theorem trims_trim (s : List Char) : Trims s (trim s) := by
  obtain ⟨front, back, hfront, hback, hs⟩ := exists_eq_append_trim s
  have hbegin : ∀ c, (trim s).head? = some c → isBlank c = false := by
    intro c hc
    obtain ⟨rest, hrest⟩ := List.head?_eq_some_iff.1 hc
    exact isBlank_head_trim hrest
  have hwhole := Trims.intro hfront hback hbegin fun c hc => isBlank_last_trim hc
  rwa [← List.append_assoc, ← hs] at hwhole

/-- Trimming leaves what the relation says. -/
theorem Trims.trim_eq {s t : List Char} (h : Trims s t) : trim s = t := by
  cases h with
  | @intro front t back hfront hback hbegin hend =>
    cases t with
    | nil =>
      -- Nothing but blanks is left.
      apply trim_of_blank
      simpa [or_imp, forall_and] using ⟨hfront, hback⟩
    | cons c rest =>
      have hvisible : BeginsVisibly (c :: rest) := ⟨c, rest, rfl, hbegin c rfl⟩
      have hlast := List.dropLast_concat_getLast (List.cons_ne_nil c rest)
      have hends : EndsVisibly (c :: rest) :=
        ⟨_, _, hlast.symm, hend _ (List.getLast?_eq_some_getLast (List.cons_ne_nil c rest))⟩
      rw [trim_append hfront hvisible hends, trimBack_of_blank hback, List.append_nil]

/-- **Trimming leaves the text between the blanks**, and a text has one such form only. -/
theorem trims_iff {s t : List Char} : Trims s t ↔ trim s = t :=
  ⟨Trims.trim_eq, fun h => h ▸ trims_trim s⟩

/-- More blanks behind make no difference. -/
theorem Trims.append_blank {s t : List Char} (h : Trims s t) {c : Char} (hc : isBlank c = true) :
    Trims (s ++ [c]) t := by
  cases h with
  | @intro front t back hfront hback hbegin hend =>
    have hmore : ∀ d ∈ back ++ [c], isBlank d = true := by
      simpa [or_imp, forall_and] using ⟨hback, hc⟩
    have hwhole := Trims.intro hfront hmore hbegin hend
    simpa only [List.append_assoc] using hwhole

/-! ## Parts -/

/-- A text is some parts with a mark between each two of them, and there is no mark in a part. -/
inductive Parts (marks : List Char) : List Char → List (List Char) → Prop where
  | last {part : List Char} (hpart : ∀ c ∈ part, c ∉ marks) : Parts marks part [part]
  | more {part rest : List Char} {mark : Char} {parts : List (List Char)}
      (hpart : ∀ c ∈ part, c ∉ marks) (hmark : mark ∈ marks) (hrest : Parts marks rest parts) :
      Parts marks (part ++ mark :: rest) (part :: parts)

section

variable {marks : List Char} {isMark : Char → Bool} (hmarks : ∀ c, isMark c = true ↔ c ∈ marks)

include hmarks

/-- The parts of a text are what splitting it gives. -/
theorem Parts.splitOnP_eq {s : List Char} {parts : List (List Char)} (h : Parts marks s parts) :
    s.splitOnP isMark = parts := by
  have hnone {part : List Char} (hpart : ∀ c ∈ part, c ∉ marks) : ∀ c ∈ part, isMark c = false :=
    fun c hc => Bool.eq_false_iff.2 (mt (hmarks c).1 (hpart c hc))
  induction h with
  | last hpart => exact List.splitOnP_eq_singleton (hnone hpart)
  | more hpart hmark _ ih =>
    rw [List.splitOnP_append_cons_of_forall_mem (hnone hpart) _ ((hmarks _).2 hmark), ih]

/-- Splitting a text gives its parts. -/
theorem parts_splitOnP (s : List Char) : Parts marks s (s.splitOnP isMark) := by
  induction s with
  | nil => exact .last (List.forall_mem_nil _)
  | cons c s ih =>
    rw [List.splitOnP_cons_eq_if_modifyHead]
    split
    · rename_i hc
      exact .more (List.forall_mem_nil _) ((hmarks c).1 hc) ih
    · -- No mark, so the character belongs to the first part of the rest.
      rename_i hc
      have hc : c ∉ marks := mt (hmarks c).2 hc
      generalize s.splitOnP isMark = parts at ih
      cases ih with
      | last hpart => exact .last (List.forall_mem_cons.2 ⟨hc, hpart⟩)
      | more hpart hmark hrest => exact .more (List.forall_mem_cons.2 ⟨hc, hpart⟩) hmark hrest

/-- **A text is cut into its parts**, wherever there is a mark. -/
theorem parts_iff {s : List Char} {parts : List (List Char)} :
    Parts marks s parts ↔ s.splitOnP isMark = parts :=
  ⟨Parts.splitOnP_eq hmarks, fun h => h ▸ parts_splitOnP hmarks s⟩

end

/-- With one mark only, the parts are those that a cut at this character gives. -/
theorem parts_splitOn_iff {mark : Char} {s : List Char} {parts : List (List Char)} :
    Parts [mark] s parts ↔ s.splitOn mark = parts :=
  parts_iff fun _ => by simp

end MediaShelves.Text
