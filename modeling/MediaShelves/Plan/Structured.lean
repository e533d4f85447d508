import MediaShelves.Alphabet
import MediaShelves.Box.Table
import MediaShelves.Facets.Audio
import MediaShelves.Plan

/-!
# The structured audio plan

Audio items by letter buckets, initials and decades.
-/

namespace MediaShelves

open MediaShelves.Text

namespace Plan

/-- The boxes of the structured audio plan. -/
def structuredKeys : List String :=
  [BoxKey.structuredAlbums, BoxKey.structuredArtists, BoxKey.structuredGenres,
    BoxKey.structuredTracks, BoxKey.structuredYears]

/-! ## Folders -/

/-- A plain folder. -/
def plainFolder (title : String) : Folder :=
  Folder.plain title UpnpClass.container

/-- The folder of everything within a folder. -/
def everything : Folder :=
  plainFolder "-all-"

/-- The folder of everything within a box. -/
def everythingAtAll : Folder :=
  plainFolder "--all--"

/-- The folder of the bucket of a name, split as the size of the box tells. -/
def bucketFolder (b : Box) (name : String) : Folder :=
  plainFolder (Alphabet.bucketTitle b.size '-' name)

/-- The folder of the initial of a name. -/
def initialFolder (name : String) : Folder :=
  plainFolder (String.ofList (Alphabet.initial? name.toList).toList)

/-! ## Titles -/

/-- The placeholder for an unknown date. -/
def unknownDate : String := "-Unknown-"

/-- The decade of a year that begins with a number of three characters. -/
def decade? (year : String) : Option String :=
  match year.toList.take 3 with
  | [a, b, c] => (unsigned? max32 [a, b, c]).map fun n =>
      String.ofList ([a, b, c] ++ "0 - ".toList ++ digits (10 * n + 9))
  | _ => none

/-- Whether an item says that it is by various artists, in any case. -/
def isVarious (x : MediaItem) : Bool :=
  (x.metadata.filled? MetaKey.description).any fun d =>
    FilePath.asciiLower d.toList == "various".toList

/-! ## The plan -/

/-- The structured audio plan over its boxes. -/
def structured (c : Configuration) (s : BoxSelection structuredKeys) (x : MediaItem) : Plan :=
  let f := AudioFacets.ofItem x (c.genres x)
  let item := f.annotate x
  let title := f.title
  let artist := f.artist
  let album := f.album
  let date := f.year?.getD unknownDate
  let decade := (f.year?.bind decade?).getD unknownDate
  let various := isVarious x
  let albumTitle := album ++ " - " ++ if various then "Various" else artist
  let trackTitle := if various then title ++ " - " ++ artist else title
  let albumLeaf := Folder.plain albumTitle UpnpClass.musicAlbum
  let artistLeaf := Folder.plain artist UpnpClass.musicArtist
  let track := item.titled trackTitle
  let withAlbum := item.titled (title ++ " (" ++ album ++ ", " ++ date ++ ")")
  let withArtist := item.titled (title ++ " - " ++ artist)
  let withBoth := item.titled (title ++ " - " ++ artist ++ " (" ++ album ++ ", " ++ date ++ ")")
  let asAlbum := some UpnpClass.musicAlbum
  let asArtist := some UpnpClass.musicArtist
  let albums := s.box BoxKey.structuredAlbums
  let artists := s.box BoxKey.structuredArtists
  let genres := s.box BoxKey.structuredGenres
  let tracks := s.box BoxKey.structuredTracks
  let years := s.box BoxKey.structuredYears
  let byInitial := [artists.folder, bucketFolder artists artist, initialFolder artist]
  let genreFolder := Folder.plain f.genre UpnpClass.musicGenre
  let byDecade := [years.folder, plainFolder decade]
  -- Albums: by bucket and initial, within their bucket, and all of them.
  when albums.enabled
    [⟨track, [albums.folder, bucketFolder albums album, initialFolder album, albumLeaf], asAlbum⟩,
      ⟨track, [albums.folder, bucketFolder albums album, everything, albumLeaf], asAlbum⟩,
      ⟨track, [albums.folder, everythingAtAll, albumLeaf], asAlbum⟩] ++
  -- Artists: all of them, within their bucket, by initial, and their dated albums.
  when artists.enabled
    [⟨withAlbum, [artists.folder, everythingAtAll, artistLeaf], asArtist⟩,
      ⟨withAlbum, [artists.folder, bucketFolder artists artist, everything, artistLeaf], asArtist⟩,
      ⟨withAlbum, byInitial ++ [artistLeaf, everything], asArtist⟩,
      ⟨track, byInitial ++
        [artistLeaf, Folder.plain (album ++ " (" ++ date ++ ")") UpnpClass.musicAlbum], asAlbum⟩] ++
  -- Genres: everything in the first genre, and by the bucket of the artist.
  when genres.enabled
    [⟨withArtist, [genres.folder, genreFolder, everythingAtAll], some UpnpClass.musicGenre⟩,
      ⟨withArtist, [genres.folder, genreFolder, bucketFolder genres artist, initialFolder artist,
        albumLeaf], asAlbum⟩] ++
  -- Tracks: by bucket and initial of their title, and all of them.
  when tracks.enabled
    [⟨withBoth, [tracks.folder, bucketFolder tracks title, initialFolder title], asArtist⟩,
      ⟨withArtist, [tracks.folder, everythingAtAll], none⟩] ++
  -- Years: everything in a decade, everything in a year, and albums within a year.
  when years.enabled
    [⟨withArtist, byDecade ++ [everything], none⟩,
      ⟨withArtist, byDecade ++ [plainFolder date, everything], asArtist⟩,
      ⟨track, byDecade ++ [plainFolder date, artistLeaf, Folder.plain album UpnpClass.musicAlbum],
        asAlbum⟩]

end Plan

/-- Where an audio item goes under the structured plan. -/
def Configuration.structuredPlan (c : Configuration) (x : MediaItem) : Except ConfigError Plan := do
  let s ← c.boxes.select Plan.structuredKeys
  return Plan.structured c s x

end MediaShelves
