import MediaShelves.Facets.Date
import MediaShelves.Facets.Genre

/-!
# Audio facets

What an audio item is shelved by, with placeholders for what is not known.
-/

namespace MediaShelves

/-- What an audio item is shelved by. -/
structure AudioFacets where
  title : String
  artist? : Option String
  album? : Option String
  year? : Option String
  composer? : Option String
  /-- The genres under their names in the configuration. -/
  genreNames : List String
  /-- The first genre as the item tells it. -/
  genreText? : Option String
deriving DecidableEq, Repr

namespace AudioFacets

/-! ## Facets of an item -/

/-- The facets of an item whose genres have these names. -/
def ofItem (x : MediaItem) (genreNames : List String) : AudioFacets where
  title := x.knownTitle
  artist? := x.metadata.filled? MetaKey.artist
  album? := x.metadata.filled? MetaKey.album
  year? := (x.metadata.filled? MetaKey.date).map leadingYear
  composer? := x.metadata.filled? MetaKey.composer
  genreNames := genreNames
  genreText? := x.metadata.filled? MetaKey.genre

/-! ## Placeholders -/

/-- The placeholder for most facets. -/
def unknown : String := "Unknown"

/-- The artist, or the placeholder. -/
def artist (f : AudioFacets) : String :=
  f.artist?.getD unknown

/-- The album, or the placeholder. -/
def album (f : AudioFacets) : String :=
  f.album?.getD unknown

/-- The year, or the placeholder. -/
def year (f : AudioFacets) : String :=
  f.year?.getD unknown

/-- The composer, or a placeholder of its own. -/
def composer (f : AudioFacets) : String :=
  f.composer?.getD "None"

/-- The genres, or the placeholder as the only one. -/
def genres (f : AudioFacets) : List String :=
  match f.genreNames with
  | [] => [unknown]
  | names => names

/-- The first of the genres. -/
def genre (f : AudioFacets) : String :=
  f.genreNames.headD unknown

/-! ## Titles made of facets -/

/-- Artist, album, title, year and genre as far as they are known. -/
def description (f : AudioFacets) : String :=
  ", ".intercalate
    (f.artist?.toList ++ f.album?.toList ++ [f.title] ++ f.year?.toList ++ f.genreText?.toList)

/-- Artist, album and title in one; an unknown album is left out. -/
def fullName (f : AudioFacets) : String :=
  f.artist?.getD "" ++
    (match f.album? with
      | some album => " - " ++ album ++ " - "
      | none => " - ") ++
    f.title

/-- The item as it is placed, with its year and with the description if it has none. -/
def annotate (f : AudioFacets) (x : MediaItem) : MediaItem :=
  let m := x.metadata
  let m := match f.year? with
    | some year => m.set MetaKey.upnpDate year
    | none => m
  let m := if (m.filled? MetaKey.description).isNone then m.set MetaKey.description f.description
    else m
  { x.reference with metadata := m }

end AudioFacets

end MediaShelves
