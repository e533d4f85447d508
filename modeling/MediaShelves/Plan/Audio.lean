import MediaShelves.Box.Table
import MediaShelves.Facets.Audio
import MediaShelves.Facets.Visual
import MediaShelves.Plan

/-!
# The standard audio plan

Audio items by artist, album, genre, composer, year and directory.
-/

namespace MediaShelves

namespace Plan

/-- The boxes of the standard audio plan. -/
def audioKeys : List String :=
  [BoxKey.audioRoot, BoxKey.audioAll, BoxKey.audioArtists, BoxKey.audioGenres, BoxKey.audioAlbums,
    BoxKey.audioYears, BoxKey.audioComposers, BoxKey.audioSongs, BoxKey.audioTracks,
    BoxKey.audioChronology, BoxKey.audioDirectories]

/-! ## Folders of facets -/

/-- The folder of an artist. -/
def artistFolder (f : AudioFacets) : Folder :=
  Folder.facet f.artist UpnpClass.musicArtist [(MetaKey.artist, f.artist)]

/-- The class of album folders. -/
def albumClass (o : Origin) : String :=
  o.albumClass.getD UpnpClass.musicAlbum

/-- The folder of an album, with the resources that it borrows. -/
def albumFolder (o : Origin) (x : MediaItem) (f : AudioFacets) : Folder :=
  let facts := [(MetaKey.album, f.album), (MetaKey.artist, f.artist)] ++
    f.year?.toList.map fun year => (MetaKey.upnpDate, year)
  (Folder.facet f.album (albumClass o) facts).borrowing o x

/-- The folder of a genre. -/
def genreFolder (genre : String) : Folder :=
  Folder.facet genre UpnpClass.musicGenre [(MetaKey.genre, genre)]

/-- The folder of a composer. -/
def composerFolder (f : AudioFacets) : Folder :=
  Folder.facet f.composer UpnpClass.musicComposer [(MetaKey.composer, f.composer)]

/-- The folder of a year. -/
def yearFolder (year : String) : Folder :=
  Folder.facet year UpnpClass.container [(MetaKey.upnpDate, year)]

/-- The folder of an album in the chronology of its artist. -/
def periodFolder (o : Origin) (f : AudioFacets) : Folder :=
  Folder.plain (f.year ++ " - " ++ f.album) (albumClass o)

/-! ## The plan -/

/-- The standard audio plan over its boxes. -/
def audio (c : Configuration) (s : BoxSelection audioKeys) (o : Origin) (x : MediaItem) : Plan :=
  let f := AudioFacets.ofItem x (c.genres x)
  let item := f.annotate x
  let track := item.titled f.title
  let named := item.titled f.fullName
  let root := s.folder BoxKey.audioRoot
  let ofArtist := [root, s.folder BoxKey.audioArtists, artistFolder f]
  let byArtist := s.enabled BoxKey.audioArtists
  let directories := c.directories o x
  -- Everything, whatever is enabled.
  [⟨track, [root, s.folder BoxKey.audioAll], none⟩] ++
  -- All songs of an artist, and all tracks under their full names, of everybody and of an artist.
  when (byArtist && s.enabled BoxKey.audioSongs)
    [⟨track, ofArtist ++ [s.folder BoxKey.audioSongs], none⟩] ++
  when (s.enabled BoxKey.audioTracks)
    [⟨named, [root, s.folder BoxKey.audioTracks], none⟩] ++
  when (s.enabled BoxKey.audioTracks && byArtist)
    [⟨named, ofArtist ++ [s.folder BoxKey.audioTracks], none⟩] ++
  -- Albums of an artist, and all albums.
  when byArtist
    [⟨track, ofArtist ++ [albumFolder o x f], some (albumClass o)⟩] ++
  when (s.enabled BoxKey.audioAlbums)
    [⟨track, [root, s.folder BoxKey.audioAlbums, albumFolder o x f], some (albumClass o)⟩] ++
  -- Genres, one placement each.
  when (s.enabled BoxKey.audioGenres)
    (f.genres.map fun genre =>
      ⟨track, [root, s.folder BoxKey.audioGenres, genreFolder genre], some UpnpClass.musicGenre⟩) ++
  -- Composers and years.
  when (s.enabled BoxKey.audioComposers)
    [⟨track, [root, s.folder BoxKey.audioComposers, composerFolder f],
      some UpnpClass.musicComposer⟩] ++
  when (s.enabled BoxKey.audioYears)
    [⟨track, [root, s.folder BoxKey.audioYears, yearFolder f.year], none⟩] ++
  -- Directories below the root.
  when (s.enabled BoxKey.audioDirectories && !directories.isEmpty)
    [⟨track, Trail.throughDirectories [root, s.folder BoxKey.audioDirectories]
      (Folder.plain "" UpnpClass.container) o x c.options.parentCount directories, none⟩] ++
  -- Albums of an artist by year.
  when (byArtist && s.enabled BoxKey.audioChronology)
    [⟨track, ofArtist ++ [s.folder BoxKey.audioChronology, periodFolder o f], none⟩]

end Plan

/-- Where an audio item goes under the standard plan. -/
def Configuration.audioPlan (c : Configuration) (o : Origin) (x : MediaItem) :
    Except ConfigError Plan := do
  let s ← c.boxes.select Plan.audioKeys
  return Plan.audio c s o x

end MediaShelves
