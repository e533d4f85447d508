import MediaShelves.Pattern.Anchor
import MediaShelves.Text.Blank
import MediaShelves.Text.CaseFold

/-!
# Flags of patterns

How a stretch of pattern text is to be read.  Blanks and comments may be left out of account; a flag
says so, and what is read here skips them (`length_skip_le`).
-/

namespace MediaShelves.Pattern

open MediaShelves.Text

/-! ## Flags -/

/-- The switches that govern how a stretch of pattern text is read. -/
structure Flags where
  ignoreCase : Bool
  multiLine : Bool
  dotMatchesNewline : Bool
  swapGreed : Bool
  /-- Classes range over all scripts; without it they are ASCII only. -/
  allScripts : Bool
  crlf : Bool
  /-- Blanks and comments in the pattern are skipped. -/
  verbose : Bool
deriving Repr, DecidableEq

/-- The flags that a name pattern begins with: case does not matter. -/
def Flags.initial : Flags :=
  ⟨true, false, false, false, true, false, false⟩

/-- Sets the flag with this letter. -/
def Flags.set? (f : Flags) (letter : Char) (value : Bool) : Option Flags :=
  match letter with
  | 'i' => some { f with ignoreCase := value }
  | 'm' => some { f with multiLine := value }
  | 's' => some { f with dotMatchesNewline := value }
  | 'U' => some { f with swapGreed := value }
  | 'u' => some { f with allScripts := value }
  | 'R' => some { f with crlf := value }
  | 'x' => some { f with verbose := value }
  | _ => none

/-- Which word characters a stretch of pattern means. -/
def Flags.wordReading (f : Flags) : WordReading :=
  if f.allScripts then .allScripts else .ascii

/-- Closes a set under case, where case does not matter. -/
def Flags.fold (f : Flags) (s : CodeSet) : CodeSet :=
  if !f.ignoreCase then s
  else if f.allScripts then s.caseClosed
  else s.caseClosed.inter .ascii

/-- The set of one literal character. -/
def Flags.literal (f : Flags) (c : Char) : CodeSet :=
  if f.allScripts || c.toNat < 0x80 then f.fold (.single c) else .single c

/-- Drops blanks and comments; a comment runs from a number sign to the end of its line. -/
def dropRemarks (inComment : Bool) : List Char → List Char
  | [] => []
  | c :: rest =>
    if inComment then dropRemarks (c != '\n') rest
    else if isBlank c then dropRemarks false rest
    else if c = '#' then dropRemarks true rest
    else c :: rest

/-- Dropping blanks and comments leaves no more than there was. -/
theorem length_dropRemarks_le (inComment : Bool) (s : List Char) :
    (dropRemarks inComment s).length ≤ s.length := by
  induction s generalizing inComment with
  | nil => simp [dropRemarks]
  | cons c rest ih =>
    have h₁ := ih (c != '\n')
    have h₂ := ih false
    have h₃ := ih true
    simp only [dropRemarks]
    split
    · simp only [List.length_cons]; omega
    · split
      · simp only [List.length_cons]; omega
      · split
        · simp only [List.length_cons]; omega
        · simp

/-- Drops what does not count at the front of pattern text. -/
def Flags.skip (f : Flags) (s : List Char) : List Char :=
  if f.verbose then dropRemarks false s else s

/-- What does not count is part of the text. -/
theorem Flags.length_skip_le (f : Flags) (s : List Char) : (f.skip s).length ≤ s.length := by
  unfold Flags.skip
  split
  · exact length_dropRemarks_le false s
  · exact Nat.le_refl _

/-- The characters at the front that pass a test; what does not count may stand after each. -/
def Flags.span (f : Flags) (p : Char → Bool) (s : List Char) : List Char × List Char :=
  match s with
  | [] => ([], [])
  | c :: rest =>
    if p c then
      let (taken, left) := f.span p (f.skip rest)
      (c :: taken, left)
    else ([], c :: rest)
termination_by s.length
decreasing_by
  have := f.length_skip_le rest
  simp only [List.length_cons]
  omega

/--
Reads flag letters up to a colon or a closing parenthesis.  No letter and no minus sign stands
twice, and a minus sign is not the last; gives the flags, the closing character, and whether
there was any letter.
-/
def readFlags (f : Flags) (seen : List Char) (value : Bool) :
    List Char → Option (Flags × Char × Bool × List Char)
  | [] => none
  | c :: rest =>
    if c = ':' || c = ')' then
      if seen.head? == some '-' then none else some (f, c, !seen.isEmpty, rest)
    else if seen.contains c then none
    else if c = '-' then readFlags f (c :: seen) false rest
    else
      match f.set? c value with
      | some f => readFlags f (c :: seen) value rest
      | none => none

end MediaShelves.Pattern
