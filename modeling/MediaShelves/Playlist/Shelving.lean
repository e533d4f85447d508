import MediaShelves.Box.Table
import MediaShelves.Configuration
import MediaShelves.Playlist.Asx
import MediaShelves.Playlist.M3u
import MediaShelves.Playlist.Pls
import MediaShelves.Shelves

/-!
# Playlists on shelves

A playlist becomes a folder that holds its entries in their order.  Which number an entry gets
depends on the entries before it: those that found no place do not count.
-/

namespace MediaShelves.Playlist

/-- The entries of a playlist, unless it is no document of its format. -/
def Format.entries? (f : Format) (text : String) : Option (List Entry) :=
  match f with
  | .m3u => some (M3u.entries text)
  | .pls => some (Pls.entries text)
  | .asx => Asx.entries? text

/-! ## Trails -/

/-- The boxes of playlists. -/
def boxKeys : List String :=
  [BoxKey.playlistRoot, BoxKey.playlistAll, BoxKey.playlistDirectories]

/-- A folder of playlists or of their entries. -/
def folder (title : String) : Folder :=
  Folder.plain title UpnpClass.playlist

/-- The title of a playlist. -/
def titleOf (x : MediaItem) : String :=
  String.ofList (FilePath.stem x.title.toList)

/-- The trails of the folders that hold the entries of a playlist. -/
def trails (s : BoxSelection boxKeys) (x : MediaItem) : List Trail :=
  let root := s.folder BoxKey.playlistRoot
  let directory := String.ofList (FilePath.lastDirectory x.location.toList)
  let all : Trail := [root, s.folder BoxKey.playlistAll, folder (titleOf x)]
  let byDirectory : Trail :=
    [root, s.folder BoxKey.playlistDirectories, folder directory, folder (titleOf x)]
  (if s.enabled BoxKey.playlistAll then [all] else []) ++
    (if s.enabled BoxKey.playlistDirectories && directory != "" then [byDirectory] else [])

/-! ## Items -/

/-- The item for an entry that points to an address. -/
def addressItem (e : Entry) (url title : String) (f : Format) : MediaItem :=
  let mimetype := e.mimetype.getD "audio/mpeg"
  let protocol := e.protocol.getD "http-get"
  let source := match f with
    | .asx => "Entry from "
    | _ => "Song from "
  let attributes := Keyed.empty.insert "protocolInfo" (protocol ++ ":*:" ++ mimetype ++ ":*")
  let attributes := match e.size with
    | some size => attributes.insert "size" (String.ofList (Text.digits size))
    | none => attributes
  { MediaItem.ofLocation url mimetype with
    form := .externalUrl
    title := e.title.getD url
    upnpClass := UpnpClass.musicTrack
    metadata := Metadata.empty.add MetaKey.description (e.description.getD (source ++ title))
    resources := [⟨"default", attributes⟩]
    protocol := some protocol }

/-- The item for an entry; there is none for a file that is not known. -/
def entryItem? (canonical? : String → Option MediaItem) (playlist : MediaItem) (f : Format)
    (e : Entry) : Option MediaItem :=
  match Target.ofLocation e.location (directoryOf playlist.location) with
  | .address url => some (addressItem e url (titleOf playlist) f)
  | .file path => (canonical? path).map fun x => x.titled x.knownTitle

/-! ## Placing -/

section

variable {σ : Type} [Shelves σ]

/-- Places an item below a trail; tells what was added, and whether the item is there now. -/
def placeBelow (x : MediaItem) (t : Trail) (s : σ) : (Option NodeId × Bool) × σ :=
  match Shelves.openTrail t s with
  | (none, s) => ((none, false), s)
  | (some id, s) =>
    match Shelves.place x id (some UpnpClass.playlist) s with
    | (some added, s) => ((some added, true), s)
    | (none, s) => ((none, (Shelves.placed? s x id).isSome), s)

/-- Places an item below each of some trails; tells what was added, and whether it is anywhere. -/
def placeBelowAll (x : MediaItem) : List Trail → σ → (List NodeId × Bool) × σ
  | [], s => (([], false), s)
  | t :: rest, s =>
    let ((added, here), s) := placeBelow x t s
    let ((more, there), s) := placeBelowAll x rest s
    ((added.toList ++ more, here || there), s)

/-- Places entries; those without a position of their own are numbered from `next` on. -/
def placeEntries (playlist : MediaItem) (f : Format) (trails : List Trail) :
    (next : Nat) → List Entry → σ → List NodeId × σ
  | _, [], s => ([], s)
  | next, e :: rest, s =>
    match entryItem? (Shelves.canonical? s) playlist f e with
    -- An entry that is not known takes no number.
    | none => placeEntries playlist f trails next rest s
    | some x =>
      let x := { x with playlistOrder := some (e.order.getD next) }
      let ((added, present), s) := placeBelowAll x trails s
      let (more, s) := placeEntries playlist f trails (if present then next + 1 else next) rest s
      (added ++ more, s)

/-- Shelves a playlist with some contents; one that is no document of its format has no entries. -/
def shelve (c : Configuration) (x : MediaItem) (content : String) (s : σ) :
    Except ConfigError (List NodeId) × σ :=
  match Format.ofMimetype? x.mimetype with
  | none => (.ok [], s)
  | some f =>
    match c.boxes.select boxKeys with
    | .error e => (.error e, s)
    | .ok boxes =>
      let entries := (f.entries? content).getD []
      let (ids, s) := placeEntries x f (trails boxes x) 1 entries s
      (.ok ids, s)

end

end MediaShelves.Playlist
