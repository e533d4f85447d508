import MediaShelves.Pattern.Search
import MediaShelves.Text.Decimal

/-!
# Replacement templates

The text that takes the place of a match.  A dollar sign before a number or a name stands for a
group, two dollar signs for one, and any other dollar sign for itself.
-/

namespace MediaShelves.Pattern

open MediaShelves.Text

/-! ## Pieces -/

/-- A piece of a template. -/
inductive Piece where
  | char (c : Char)
  | numbered (index : Nat)
  | named (name : String)
deriving Repr, DecidableEq

/-- The group that a reference means: a number if it reads as one, else a name. -/
def Piece.ofReference (s : List Char) : Piece :=
  match unsigned? max64 s with
  | some index => .numbered index
  | none => .named (String.ofList s)

/-- Whether a character may stand in a reference without braces. -/
def isReferencePart (c : Char) : Bool :=
  c.isAlphanum || c == '_'

/-- Cuts a text at its first closing brace. -/
def cutBrace? (s : List Char) : Option (List Char × List Char) :=
  match s.dropWhile (· != '}') with
  | _ :: rest => some (s.takeWhile (· != '}'), rest)
  | [] => none

/-- The piece that a text after a dollar sign begins with, and how many characters it takes. -/
def readReference (s : List Char) : Option (Piece × Nat) :=
  match s with
  | [] => none
  | '$' :: _ => some (.char '$', 1)
  | '{' :: rest =>
    (cutBrace? rest).map fun (name, _) => (Piece.ofReference name, name.length + 2)
  | s =>
    match s.takeWhile isReferencePart with
    | [] => none
    | name => some (Piece.ofReference name, name.length)

/-- The pieces of a template; `passed` counts characters that belong to the piece before. -/
def Piece.ofTemplate : (passed : Nat) → List Char → List Piece
  | _, [] => []
  | passed + 1, _ :: rest => ofTemplate passed rest
  | 0, c :: rest =>
    if c = '$' then
      match readReference rest with
      | some (piece, length) => piece :: ofTemplate length rest
      | none => .char c :: ofTemplate 0 rest
    else .char c :: ofTemplate 0 rest

/-- The text of a piece; a group that took no part in the match is empty. -/
def Piece.expand (names : List (String × Nat)) (m : Match) : Piece → List Char
  | .char c => [c]
  | .numbered index => (m.group? index).getD []
  | .named name => ((names.lookup name).bind m.group?).getD []

end MediaShelves.Pattern
