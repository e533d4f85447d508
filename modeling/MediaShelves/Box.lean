import MediaShelves.Folder

/-!
# Boxes

A box is a named slot for a folder: which title and class the folder has, and whether it is used.
-/

namespace MediaShelves

/-! ## Keys of the boxes that plans use -/

namespace BoxKey

def audioRoot := "Audio/audioRoot"
def audioAll := "Audio/allAudio"
def audioArtists := "Audio/allArtists"
def audioGenres := "Audio/allGenres"
def audioAlbums := "Audio/allAlbums"
def audioYears := "Audio/allYears"
def audioComposers := "Audio/allComposers"
def audioSongs := "Audio/allSongs"
def audioTracks := "Audio/allTracks"
def audioChronology := "Audio/artistChronology"
def audioDirectories := "Audio/allDirectories"

def structuredAlbums := "AudioStructured/allAlbums"
def structuredArtists := "AudioStructured/allArtists"
def structuredGenres := "AudioStructured/allGenres"
def structuredTracks := "AudioStructured/allTracks"
def structuredYears := "AudioStructured/allYears"

def videoRoot := "Video/videoRoot"
def videoAll := "Video/allVideo"
def videoYears := "Video/allYears"
def videoDates := "Video/allDates"
def videoDirectories := "Video/allDirectories"
def videoUnknown := "Video/unknown"

def imageRoot := "Image/imageRoot"
def imageAll := "Image/allImages"
def imageYears := "Image/allYears"
def imageDates := "Image/allDates"
def imageDirectories := "Image/allDirectories"
def imageUnknown := "Image/unknown"

def imageModels := "ImageDetail/allModels"
def imageYearMonth := "ImageDetail/yearMonth"
def imageYearDate := "ImageDetail/yearDate"

def topicRoot := "Topic/topicRoot"
def topic := "Topic/topic"
def topicExtra := "Topic/topicExtra"

def trailerRoot := "Trailer/trailerRoot"
def trailerService := "Trailer/trailerApple"
def trailerAll := "Trailer/allTrailers"
def trailerGenres := "Trailer/allGenres"
def trailerReleaseDate := "Trailer/relDate"
def trailerPostDate := "Trailer/postDate"
def trailerUnknown := "Trailer/unknown"

def playlistRoot := "Playlist/playlistRoot"
def playlistAll := "Playlist/allPlaylists"
def playlistDirectories := "Playlist/allDirectories"

end BoxKey

/-! ## Boxes -/

/-- A named slot for a folder. -/
structure Box where
  key : String
  title : String
  upnpClass : String
  enabled : Bool
  searchable : Bool
  /-- The id that the folder is pinned to. -/
  pinned : Option NodeId
  shortcut : Option String
  sortKey : Option String
  /-- A size that a plan may read: the kind of letter buckets. -/
  size : Nat
deriving DecidableEq, Repr

namespace Box

/-- An enabled box with a key, a title and a class. -/
def plain (key title upnpClass : String) : Box where
  key := key
  title := title
  upnpClass := upnpClass
  enabled := true
  searchable := false
  pinned := none
  shortcut := none
  sortKey := none
  size := 1

/-- The same box with another size. -/
def sized (b : Box) (size : Nat) : Box :=
  { b with size := size }

/-- The folder that a box asks for. -/
def folder (b : Box) : Folder :=
  { Folder.plain b.title b.upnpClass with
    pinned := b.pinned
    searchable := b.searchable
    shortcut := b.shortcut
    sortKey := b.sortKey }

/-- The boxes that stay enabled whatever is configured. -/
def alwaysEnabled : List String :=
  [BoxKey.audioRoot, BoxKey.audioAll, BoxKey.imageRoot, BoxKey.imageAll, BoxKey.videoRoot,
    BoxKey.videoAll]

/-- A root box is enabled, and a box that is not enabled is not searchable. -/
def normalized (b : Box) : Box :=
  let enabled := b.enabled || alwaysEnabled.contains b.key
  { b with enabled := enabled, searchable := enabled && b.searchable }

end Box

end MediaShelves
