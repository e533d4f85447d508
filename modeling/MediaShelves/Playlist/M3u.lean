import MediaShelves.Playlist
import MediaShelves.Text.CharacterClass
import MediaShelves.Text.Cut

/-!
# M3U playlists

A location to a line.  A comment of the extended format tells the duration, the title and perhaps
the mimetype of the location after it.
-/

namespace MediaShelves.Playlist.M3u

open MediaShelves.Text

/-- What a comment tells about the location after it. -/
structure Info where
  duration : List Char
  title : List Char
  mimetype : Option (List Char)
deriving DecidableEq, Repr

/-! ## Comments -/

/-- Whether a text is two names with a slash between them. -/
def isMimetype (s : List Char) : Bool :=
  match s.splitOn '/' with
  | [major, minor] =>
    !major.isEmpty && major.all isNameCharacter && !minor.isEmpty && minor.all isNameCharacter
  | _ => false

/-- The title and the mimetype in a text; the latter follows the last comma, if it is there. -/
def splitTitle (s : List Char) : List Char × Option (List Char) :=
  match cutLast? ',' s with
  | some (title, mimetype) =>
    if isMimetype (trim mimetype) then (trimBack title, some (trim mimetype)) else (s, none)
  | none => (s, none)

/-- Reads a number, which may be negative, up to the comma after it. -/
def readDuration? (s : List Char) : Option (List Char × List Char) :=
  let (sign, s) := match s with
    | '-' :: rest => (['-'], rest)
    | _ => ([], s)
  match s.takeWhile isDecimalDigit, s.dropWhile isDecimalDigit with
  | [], _ => none
  | ds, ',' :: rest => some (sign ++ ds, rest)
  | _, _ => none

/-- A text that begins with at most one blank and is not blank otherwise. -/
def readTitle? (s : List Char) : Option (List Char) :=
  let s := match s with
    | c :: rest => if isBlank c then rest else s
    | [] => []
  match s with
  | c :: _ => if isBlank c then none else some s
  | [] => none

/-- What a comment of the extended format tells. -/
def Info.ofLine? (line : List Char) : Option Info := do
  let mark := "#extinf:".toList
  guard (FilePath.asciiLower (line.take mark.length) == mark)
  let (duration, rest) ← readDuration? (line.drop mark.length)
  let (title, mimetype) := splitTitle (← readTitle? rest)
  return ⟨duration, title, mimetype⟩

/-! ## Entries -/

/-- The entry of a location after a comment. -/
def Info.entry (i : Info) (location : List Char) : Entry :=
  { Entry.ofLocation (String.ofList location) with
    title := some (String.ofList i.title)
    mimetype := i.mimetype.map String.ofList
    extra := Keyed.empty.insert "duration" (String.ofList i.duration) }

/-- The entries of some lines, the first of which may follow a comment. -/
def readLines (pending : Option Info) : List (List Char) → List Entry
  | [] => []
  | [] :: rest => readLines pending rest
  | ('#' :: comment) :: rest => readLines ((Info.ofLine? ('#' :: comment)).or pending) rest
  | line :: rest =>
    (match pending with
      | some i => i.entry line
      | none => Entry.ofLocation (String.ofList line)) :: readLines none rest

/-- The entries of a playlist. -/
def entries (text : String) : List Entry :=
  readLines none (trimmedLines text)

end MediaShelves.Playlist.M3u
