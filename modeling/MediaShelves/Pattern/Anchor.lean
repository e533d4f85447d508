import MediaShelves.Text.CharacterClass

/-!
# Anchors

Conditions on a position of a text: on the characters before and after it.
-/

namespace MediaShelves.Pattern

open MediaShelves.Text

/-- The two readings of a word character: by the tables of all scripts, or ASCII only. -/
inductive WordReading where
  | allScripts
  | ascii
deriving Repr, DecidableEq

/-- Whether a word character stands on this side of a position. -/
def WordReading.hasWord (r : WordReading) : Option Char → Bool
  | none => false
  | some c =>
    match r with
    | .allScripts => isWordCharacter c
    | .ascii => c.isAlphanum || c == '_'

/-- A condition on the characters around a position. -/
inductive Anchor where
  | textStart
  | textEnd
  | lineStart
  | lineEnd
  /-- Line ends that take a carriage return with a line feed for one. -/
  | lineStartCrlf
  | lineEndCrlf
  | wordBoundary (r : WordReading)
  | notWordBoundary (r : WordReading)
  | wordStart (r : WordReading)
  | wordEnd (r : WordReading)
  | wordStartHalf (r : WordReading)
  | wordEndHalf (r : WordReading)
deriving Repr, DecidableEq

/-- Whether an anchor holds between the characters `before` and `after`. -/
def Anchor.holds (a : Anchor) (before after : Option Char) : Bool :=
  match a with
  | .textStart => before.isNone
  | .textEnd => after.isNone
  | .lineStart => before.isNone || before == some '\n'
  | .lineEnd => after.isNone || after == some '\n'
  | .lineStartCrlf =>
    before.isNone || before == some '\n' || (before == some '\r' && after != some '\n')
  | .lineEndCrlf =>
    after.isNone || after == some '\r' || (after == some '\n' && before != some '\r')
  | .wordBoundary r => r.hasWord before != r.hasWord after
  | .notWordBoundary r => r.hasWord before == r.hasWord after
  | .wordStart r => !r.hasWord before && r.hasWord after
  | .wordEnd r => r.hasWord before && !r.hasWord after
  | .wordStartHalf r => !r.hasWord before
  | .wordEndHalf r => !r.hasWord after

end MediaShelves.Pattern
