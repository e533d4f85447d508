import MediaShelves.Playlist
import MediaShelves.Proofs.Text.Parts

/-!
# The lines of a text

A text may begin with a byte order mark, which is no part of its lines.  A line ends with a line feed,
with a carriage return before it or without, and the last line may end with the text.  Blanks at the
ends of a line do not count (`TextLines`).

`trimmedLines` cuts a text at its line feeds, so that it finds a blank line more behind a last line feed.
Nothing that reads playlists minds a blank line at the end (`TextLines.congr_trimmedLines`).
-/

namespace MediaShelves.Playlist

open MediaShelves.Text

/-! ## Lines -/

/-- What a text says behind a byte order mark that it begins with, and all of it without one. -/
inductive Unmarked : List Char → List Char → Prop where
  | marked (s : List Char) : Unmarked ('\uFEFF' :: s) s
  | plain {s : List Char} (h : s.head? ≠ some '\uFEFF') : Unmarked s s

/-- What ends a line. -/
inductive LineEnd : List Char → Prop where
  | feed : LineEnd ['\n']
  | returnFeed : LineEnd ['\r', '\n']

/-- The trimmed lines that a text is put together from.  The last one may lack its end. -/
inductive LinesOf : List Char → List (List Char) → Prop where
  | nil : LinesOf [] []
  | last {raw line : List Char} (hne : raw ≠ []) (hraw : '\n' ∉ raw) (htrims : Trims raw line) :
      LinesOf raw [line]
  | more {raw ending rest line : List Char} {lines : List (List Char)} (hraw : '\n' ∉ raw)
      (hending : LineEnd ending) (htrims : Trims raw line) (hrest : LinesOf rest lines) :
      LinesOf (raw ++ (ending ++ rest)) (line :: lines)

/-- The trimmed lines of a text, without a byte order mark. -/
def TextLines (text : String) (lines : List (List Char)) : Prop :=
  ∃ s, Unmarked text.toList s ∧ LinesOf s lines

/-! ## Cutting a text at its line feeds -/

/-- The trimmed parts between the line feeds are the lines, and perhaps a blank one. -/
theorem LinesOf.splitOn_eq {s : List Char} {lines : List (List Char)} (h : LinesOf s lines) :
    (s.splitOn '\n').map trim = lines ∨ (s.splitOn '\n').map trim = lines ++ [[]] := by
  induction h with
  | nil => exact .inr rfl
  | last _ hraw htrims =>
    rw [List.splitOn_eq_singleton hraw, List.map_singleton, htrims.trim_eq]
    exact .inl rfl
  | @more raw ending rest line lines hraw hending htrims _ ih =>
    -- A carriage return goes with the blanks behind the line.
    obtain ⟨back, hback, hending⟩ : ∃ back, ending = back ++ ['\n'] ∧ '\n' ∉ raw ++ back ∧
        Trims (raw ++ back) line := by
      cases hending with
      | feed => exact ⟨[], rfl, by simpa using hraw, by simpa using htrims⟩
      | returnFeed => exact ⟨['\r'], rfl, by simp [hraw], htrims.append_blank (by decide)⟩
    obtain ⟨hnone, htrims⟩ := hending
    have hcut : (raw ++ (ending ++ rest)).splitOn '\n' = (raw ++ back) :: rest.splitOn '\n' := by
      have hfirst := List.splitOn_append_cons_self_of_not_mem hnone rest
      simpa [hback] using hfirst
    rw [hcut, List.map_cons, htrims.trim_eq]
    rcases ih with ih | ih
    · exact .inl (congrArg (line :: ·) ih)
    · exact .inr (congrArg (line :: ·) ih)

/-- The trimmed parts between the line feeds are the lines, but for an empty one at the end. -/
theorem linesOf_parts {s : List Char} {parts : List (List Char)} (h : Parts ['\n'] s parts) :
    LinesOf s ((if parts.getLast? = some [] then parts.dropLast else parts).map trim) := by
  induction h with
  | @last part hpart =>
    by_cases hne : part = []
    · subst hne
      exact .nil
    · have hlast : [part].getLast? ≠ some [] := by simpa using hne
      rw [if_neg hlast]
      exact .last hne (fun h => hpart _ h (by simp)) (trims_trim part)
  | @more part rest mark parts hpart hmark hrest ih =>
    obtain rfl := List.mem_singleton.1 hmark
    have hline := LinesOf.more (fun h => hpart _ h (by simp)) .feed (trims_trim part) ih
    -- There is a part behind the line feed, so that the last one of all is the last one of the rest.
    cases hrest with
    | last => split at hline <;> simp_all
    | more => split at hline <;> simp_all

/-! ## The lines of a playlist -/

/-- The mark is what is taken off, where there is one. -/
theorem unmarked_iff {s t : List Char} :
    Unmarked s t ↔ (match s with
      | c :: rest => if c.toNat = 0xFEFF then rest else c :: rest
      | [] => []) = t := by
  -- The byte order mark is one character, told by its code.
  have hmark (c : Char) : c.toNat = 0xFEFF ↔ c = '\uFEFF' := by
    rw [← Char.toNat_inj]
    rfl
  constructor
  · rintro (_ | h)
    · rfl
    · cases s with
      | nil => rfl
      | cons c rest =>
        have hc : c ≠ '\uFEFF' := by simpa using h
        simp [hmark, hc]
  · rintro rfl
    cases s with
    | nil => exact .plain (by simp)
    | cons c rest =>
      by_cases hc : c = '\uFEFF'
      · subst hc
        exact .marked rest
      · simpa [hmark, hc] using Unmarked.plain (s := c :: rest) (by simpa using hc)

/-- Every text has lines. -/
theorem exists_textLines (text : String) : ∃ lines, TextLines text lines :=
  ⟨_, _, unmarked_iff.2 rfl, linesOf_parts (parts_splitOn_iff.2 rfl)⟩

/-- The lines of a text behind a byte order mark. -/
theorem textLines_append {body : String} {lines : List (List Char)}
    (h : (if (body.toList.splitOn '\n').getLast? = some [] then (body.toList.splitOn '\n').dropLast
      else body.toList.splitOn '\n').map trim = lines) : TextLines ("\uFEFF" ++ body) lines := by
  refine ⟨body.toList, ?_, h ▸ linesOf_parts (parts_splitOn_iff.2 rfl)⟩
  rw [String.toList_append]
  exact .marked _

/-- **The lines that are read are those of the text**, for whoever does not mind a blank one more. -/
theorem TextLines.congr_trimmedLines {text : String} {lines : List (List Char)}
    (h : TextLines text lines) {α : Type} {f : List (List Char) → α}
    (hf : ∀ lines, f (lines ++ [[]]) = f lines) : f (trimmedLines text) = f lines := by
  obtain ⟨s, hs, hlines⟩ := h
  have hread : trimmedLines text = (s.splitOn '\n').map trim := by
    rw [← unmarked_iff.1 hs]
    rfl
  rw [hread]
  rcases hlines.splitOn_eq with heq | heq
  · rw [heq]
  · rw [heq, hf]

end MediaShelves.Playlist
