import MediaShelves.Playlist
import MediaShelves.Text.CharacterClass
import MediaShelves.Text.Decimal

/-!
# PLS playlists

Numbered fields, a line each.  Fields with the same number, one after another, make up an entry, and
the number is its position.  All other lines are skipped.
-/

namespace MediaShelves.Playlist.Pls

open MediaShelves.Text

/-! ## Fields -/

/-- What a field tells about an entry. -/
inductive FieldName where
  | file
  | title
  | mimetype
  | length
deriving DecidableEq, Repr

/-- A field with the number of its entry. -/
structure Field where
  name : FieldName
  index : Nat
  value : List Char
deriving DecidableEq, Repr

/-- The word for a field, in lower case. -/
def FieldName.word : FieldName → List Char
  | .file => "file".toList
  | .title => "title".toList
  | .mimetype => "mimetype".toList
  | .length => "length".toList

/-- All fields that there are. -/
def FieldName.known : List FieldName :=
  [.file, .title, .mimetype, .length]

/-- The word that begins a line, in any case, and the rest of the line. -/
def readName? (line : List Char) : Option (FieldName × List Char) :=
  (FieldName.known.find? fun name =>
    FilePath.asciiLower (line.take name.word.length) == name.word).map fun name =>
      (name, line.drop name.word.length)

/-- The field of a line: a word, a number, an equals sign and a value. -/
def Field.ofLine? (line : List Char) : Option Field := do
  let (name, rest) ← readName? line
  let rest := trimFront rest
  let index ← unsigned? max32 (rest.takeWhile isDecimalDigit)
  match trimFront (rest.dropWhile isDecimalDigit) with
  | '=' :: rest =>
    match trimFront rest with
    | [] => none
    | value => some ⟨name, index, value⟩
  | _ => none

/-! ## Entries -/

/-- The entry with the number of a field and nothing else. -/
def blankEntry (index : Nat) : Entry :=
  { Entry.ofLocation "" with order := some index }

/-- The entry with what a field tells. -/
def Field.fill (f : Field) (e : Entry) : Entry :=
  let value := String.ofList f.value
  match f.name with
  | .file => { e with location := value }
  | .title => { e with title := some value }
  | .mimetype => { e with mimetype := some value }
  | .length => { e with extra := e.extra.insert "length" value }

/-- The entries of some fields, the first of which may belong to an entry that has begun. -/
def collect (current : Option Entry) : List Field → List Entry
  | [] => current.toList
  | f :: rest =>
    match current with
    | some e =>
      if e.order = some f.index then collect (some (f.fill e)) rest
      else e :: collect (some (f.fill (blankEntry f.index))) rest
    | none => collect (some (f.fill (blankEntry f.index))) rest

/-- The entries of a playlist; an entry without a location is none. -/
def entries (text : String) : List Entry :=
  (collect none ((trimmedLines text).filterMap Field.ofLine?)).filter (·.location ≠ "")

end MediaShelves.Playlist.Pls
