import MediaShelves.Text.Cut
import MediaShelves.Text.CodeTable
import MediaShelves.Text.Decimal

/-!
# Entities

Characters written as entities between an ampersand and a semicolon: the five predefined ones and
numbers of characters.
-/

namespace MediaShelves.Xml

open MediaShelves.Text

/-- A hexadecimal digit in either case. -/
def isHexDigit (c : Char) : Bool :=
  c.isDigit || (decide ('a' ≤ c) && decide (c ≤ 'f')) || (decide ('A' ≤ c) && decide (c ≤ 'F'))

/-- The number that hexadecimal digits stand for, in either case. -/
def natOfHexDigits? (s : List Char) : Option Nat :=
  if !s.isEmpty && s.all isHexDigit then
    some (s.foldl (fun n c => 16 * n + hexDigitValue c.toUpper) 0)
  else none

/-- The character with a number; 0 and the surrogates have none. -/
def charOfNumber? (n : Nat) : Option Char :=
  if n ≠ 0 ∧ n.isValidChar then some (Char.ofNat n) else none

/-- The character that an entity stands for, given what is between ampersand and semicolon. -/
def entity? (name : List Char) : Option Char :=
  match name with
  | '#' :: 'x' :: ds => (natOfHexDigits? ds).bind charOfNumber?
  | '#' :: ds => (natOfDigits? ds).bind charOfNumber?
  | _ =>
    if name = ['l', 't'] then some '<'
    else if name = ['g', 't'] then some '>'
    else if name = ['a', 'm', 'p'] then some '&'
    else if name = ['a', 'p', 'o', 's'] then some '\''
    else if name = ['q', 'u', 'o', 't'] then some '"'
    else none

/-- What follows a cut is shorter than the whole. -/
theorem length_of_cutFirst? {mark : Char} {s before after : List Char}
    (h : cutFirst? mark s = some (before, after)) : after.length < s.length := by
  rw [eq_of_cutFirst? h]
  simp only [List.length_append, List.length_cons]
  omega

/-- The text with all entities resolved; an ampersand that begins no entity is an error. -/
def unescape? (s : List Char) : Option (List Char) :=
  match s with
  | [] => some []
  | c :: rest =>
    if c = '&' then
      match _h : cutFirst? ';' rest with
      | some (name, after) =>
        match entity? name with
        | some d => (unescape? after).map (d :: ·)
        | none => none
      | none => none
    else (unescape? rest).map (c :: ·)
termination_by s.length
decreasing_by
  · have := length_of_cutFirst? _h
    simp only [List.length_cons]
    omega
  · simp

end MediaShelves.Xml
