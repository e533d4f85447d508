import MediaShelves.Box
import MediaShelves.ConfigError

/-!
# Box tables

All boxes of a configuration by their keys: the built-in table, changes to it, and the selection of
the boxes that a plan needs.  A selection exists exactly if no key is missing, and from then on
every look-up of a selected key succeeds.
-/

namespace MediaShelves

/-- Boxes by their keys. -/
structure BoxTable where
  boxes : Keyed Box
deriving DecidableEq, Repr

/-- What a configuration says about a box; what it leaves out comes from the built-in table. -/
structure BoxSettings where
  key : String
  title : Option String
  upnpClass : Option String
  enabled : Option Bool
  searchable : Option Bool
  pinned : Option NodeId
  shortcut : Option String
  sortKey : Option String
  size : Option Nat
deriving DecidableEq, Repr

/-- The built-in boxes. -/
def Box.builtin : List Box :=
  let folder := UpnpClass.container
  let album := UpnpClass.photoAlbum
  [plain BoxKey.audioRoot "Audio" folder,
    plain BoxKey.audioAll "All Audio" folder,
    plain BoxKey.audioArtists "Artists" folder,
    plain BoxKey.audioGenres "Genres" folder,
    plain BoxKey.audioAlbums "Albums" folder,
    plain BoxKey.audioYears "Year" folder,
    plain BoxKey.audioComposers "Composers" folder,
    plain BoxKey.audioSongs "All Songs" folder,
    plain BoxKey.audioTracks "All - full name" folder,
    plain BoxKey.audioChronology "Album Chronology" folder,
    plain BoxKey.audioDirectories "Directories" folder,
    (plain BoxKey.structuredAlbums "-Album-" folder).sized 6,
    (plain BoxKey.structuredArtists "-Artist-" folder).sized 9,
    (plain BoxKey.structuredGenres "-Genre-" folder).sized 6,
    (plain BoxKey.structuredTracks "-Track-" folder).sized 6,
    plain BoxKey.structuredYears "-Year-" folder,
    plain BoxKey.videoRoot "Video" folder,
    plain BoxKey.videoAll "All Video" folder,
    plain BoxKey.videoYears "Year" folder,
    plain BoxKey.videoDates "Date" folder,
    plain BoxKey.videoDirectories "Directories" folder,
    plain BoxKey.videoUnknown "Unknown" folder,
    plain BoxKey.imageRoot "Photos" folder,
    plain BoxKey.imageAll "All Photos" folder,
    plain BoxKey.imageYears "Year" folder,
    plain BoxKey.imageDates "Date" folder,
    plain BoxKey.imageDirectories "Directories" folder,
    plain BoxKey.imageUnknown "Unknown" folder,
    plain BoxKey.imageModels "Model" album,
    plain BoxKey.imageYearMonth "Year+Month" album,
    plain BoxKey.imageYearDate "Year+Date" album,
    plain BoxKey.topicRoot "Topics" folder,
    plain BoxKey.topic "Topic" album,
    plain BoxKey.topicExtra "Selection" album,
    plain BoxKey.trailerRoot "Online Services" folder,
    plain BoxKey.trailerService "Apple Trailers" folder,
    plain BoxKey.trailerAll "All Trailers" folder,
    plain BoxKey.trailerGenres "Genres" folder,
    plain BoxKey.trailerReleaseDate "Release Date" folder,
    plain BoxKey.trailerPostDate "Post Date" folder,
    plain BoxKey.trailerUnknown "Unknown" folder,
    plain BoxKey.playlistRoot "Playlists" folder,
    plain BoxKey.playlistAll "All Playlists" folder,
    plain BoxKey.playlistDirectories "Directories" folder]

namespace BoxTable

/-! ## Tables -/

/-- The table without boxes. -/
def empty : BoxTable :=
  ⟨Keyed.empty⟩

/-- The box under `key`. -/
def find? (t : BoxTable) (key : String) : Option Box :=
  t.boxes.find? key

/-- Whether there is an enabled box under `key`. -/
def isEnabled (t : BoxTable) (key : String) : Bool :=
  (t.find? key).any (·.enabled)

/-- Puts a box into the table, normalized, in the stead of one with the same key. -/
def insert (t : BoxTable) (b : Box) : BoxTable :=
  ⟨t.boxes.insert b.key b.normalized⟩

/-- Removes the box under `key`. -/
def erase (t : BoxTable) (key : String) : BoxTable :=
  ⟨t.boxes.erase key⟩

/-- The number of boxes. -/
def size (t : BoxTable) : Nat :=
  t.boxes.size

/-- The boxes in key order. -/
def toList (t : BoxTable) : List Box :=
  t.boxes.values

/-- The built-in table. -/
def builtin : BoxTable :=
  Box.builtin.foldl (fun t b => ⟨t.boxes.insert b.key b⟩) empty

/-- The box of some settings; what they leave out comes from `fallback`, or is plain. -/
def settingsBox (s : BoxSettings) (fallback : Option Box) : Box :=
  let b := fallback.getD (Box.plain s.key s.key UpnpClass.container)
  { key := b.key
    title := s.title.getD b.title
    upnpClass := s.upnpClass.getD b.upnpClass
    enabled := s.enabled.getD b.enabled
    searchable := s.searchable.getD b.searchable
    pinned := s.pinned.or b.pinned
    shortcut := s.shortcut.or b.shortcut
    sortKey := s.sortKey.or b.sortKey
    size := s.size.getD b.size }

/-- The table of some settings, with the built-in boxes for all keys that they do not mention. -/
def ofSettings (settings : List BoxSettings) : BoxTable :=
  let configured := settings.foldl (fun t s => t.insert (settingsBox s (builtin.find? s.key))) empty
  builtin.toList.foldl
    (fun t b => if t.boxes.contains b.key then t else ⟨t.boxes.insert b.key b⟩) configured

end BoxTable

/-! ## Selections -/

/-- A box table that has all boxes of a list of keys. -/
structure BoxSelection (keys : List String) where
  table : BoxTable
  defined : ∀ key ∈ keys, (table.find? key).isSome

/-- Selects boxes by their keys; the first key that is missing is an error. -/
def BoxTable.select (t : BoxTable) (keys : List String) :
    Except ConfigError (BoxSelection keys) :=
  match h : keys.find? fun key => (t.find? key).isNone with
  | some key => .error (.missingBox key)
  | none => .ok ⟨t, fun key hk => by
      simpa [Option.isSome_iff_ne_none] using List.find?_eq_none.1 h key hk⟩

/-- A table that has all boxes of a list of keys selects them. -/
theorem BoxTable.select_eq {t : BoxTable} {keys : List String}
    (h : ∀ key ∈ keys, (t.find? key).isSome) : t.select keys = .ok ⟨t, h⟩ := by
  unfold BoxTable.select
  split
  · rename_i key hkey
    have hsome := h key (List.mem_of_find?_eq_some hkey)
    have hnone := List.find?_some hkey
    rw [Option.isNone_iff_eq_none] at hnone
    rw [hnone] at hsome
    cases hsome
  · rfl

theorem BoxTable.exists_select {t : BoxTable} {keys : List String}
    (h : ∀ key ∈ keys, (t.find? key).isSome) : ∃ s, t.select keys = .ok s :=
  ⟨_, BoxTable.select_eq h⟩

namespace BoxSelection

variable {keys : List String}

/-- A selected box. -/
def box (s : BoxSelection keys) (key : String) (h : key ∈ keys := by decide) : Box :=
  (s.table.find? key).get (s.defined key h)

/-- The folder of a selected box. -/
def folder (s : BoxSelection keys) (key : String) (h : key ∈ keys := by decide) : Folder :=
  (s.box key h).folder

/-- Whether a selected box is enabled. -/
def enabled (s : BoxSelection keys) (key : String) (h : key ∈ keys := by decide) : Bool :=
  (s.box key h).enabled

/-- The box under any key, if that key is selected. -/
def find? (s : BoxSelection keys) (key : String) : Option Box :=
  if key ∈ keys then s.table.find? key else none

/-- Whether a key is selected and its box enabled. -/
def isEnabled (s : BoxSelection keys) (key : String) : Bool :=
  (s.find? key).any (·.enabled)

/-- The folder of the box under any key; a key that is not selected is an error. -/
def folder? (s : BoxSelection keys) (key : String) : Except ConfigError Folder :=
  match s.find? key with
  | some b => .ok b.folder
  | none => .error (.missingBox key)

/-- The trail through the boxes of a template. -/
def trail? (s : BoxSelection keys) (template : List String) : Except ConfigError Trail :=
  template.mapM s.folder?

/-- How many boxes are selected. -/
def size (_ : BoxSelection keys) : Nat :=
  keys.eraseDups.length

end BoxSelection

end MediaShelves
