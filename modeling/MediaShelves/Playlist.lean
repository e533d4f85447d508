import MediaShelves.FilePath
import MediaShelves.Keyed
import MediaShelves.Text.Blank
import MediaShelves.Text.Percent

/-!
# Playlists

What a playlist is: a list of entries in one of three formats, each of which points to a local file
or to an address elsewhere.
-/

namespace MediaShelves.Playlist

open MediaShelves.Text

/-! ## Formats -/

/-- The format of a playlist file. -/
inductive Format where
  | m3u
  | pls
  | asx
deriving DecidableEq, Repr

/-- The format that a mimetype means. -/
def Format.ofMimetype? (mimetype : String) : Option Format :=
  if mimetype = "audio/x-mpegurl" ∨ mimetype = "audio/mpegurl" ∨
      mimetype = "application/vnd.apple.mpegurl" then some .m3u
  else if mimetype = "audio/x-scpls" then some .pls
  else if mimetype = "video/x-ms-asf" ∨ mimetype = "video/x-ms-asx" then some .asx
  else none

/-! ## Entries -/

/-- An entry of a playlist. -/
structure Entry where
  location : String
  title : Option String
  mimetype : Option String
  /-- The position that the playlist gives the entry, where it does. -/
  order : Option Nat
  description : Option String
  protocol : Option String
  size : Option Nat
  /-- Whatever else the playlist tells. -/
  extra : Keyed String
deriving DecidableEq, Repr

/-- An entry of which only the location is known. -/
def Entry.ofLocation (location : String) : Entry :=
  ⟨location, none, none, none, none, none, none, Keyed.empty⟩

/-- The lines of a text, without a byte order mark, and without blanks at their ends. -/
def trimmedLines (text : String) : List (List Char) :=
  let s := match text.toList with
    | c :: rest => if c.toNat = 0xFEFF then rest else c :: rest
    | [] => []
  (s.splitOn '\n').map trim

/-! ## Targets -/

/-- What an entry points to. -/
inductive Target where
  /-- A local file, by its path. -/
  | file (path : String)
  /-- Something elsewhere, by its address. -/
  | address (url : String)
deriving DecidableEq, Repr

/-- The text before the first colon that two slashes follow. -/
def beforeScheme? : List Char → Option (List Char)
  | [] => none
  | c :: rest =>
    if [':', '/', '/'].isPrefixOf (c :: rest) then some []
    else (beforeScheme? rest).map (c :: ·)

/-- Whether a character may stand in the name of a scheme or in a part of a mimetype. -/
def isNameCharacter (c : Char) : Bool :=
  c.isAlphanum || c == '+' || c == '-' || c == '.'

/-- Whether a location begins with the name of a scheme. -/
def hasScheme (location : List Char) : Bool :=
  (beforeScheme? location).any fun scheme => !scheme.isEmpty && scheme.all isNameCharacter

/--
What a location means in a playlist of some directory.  A location with a scheme is an address,
unless the scheme is that of files; a location that does not begin with a slash is relative.
-/
def Target.ofLocation (location directory : String) : Target :=
  match dropStart? "file://".toList location.toList with
  | some path =>
    let path := String.ofList path
    .file ((percentDecode? path).getD path)
  | none =>
    if hasScheme location.toList then .address location
    else if location.toList.head? = some '/' then .file location
    else .file (directory ++ location)

/-- The directory of a playlist, with its trailing slash. -/
def directoryOf (location : String) : String :=
  String.ofList (FilePath.directoryPart location.toList)

end MediaShelves.Playlist
