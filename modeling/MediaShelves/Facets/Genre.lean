import MediaShelves.Configuration
import MediaShelves.MediaItem
import MediaShelves.Text.Blank

/-!
# Genres

The genres of an item, one by one, under the names that the configuration gives them.
-/

namespace MediaShelves

open MediaShelves.Text

/-- The parts of a text between commas, without blanks around them and without empty ones. -/
def commaParts (s : String) : List String :=
  ((s.toList.splitOn ',').map fun part => String.ofList (trim part)).filter (· ≠ "")

namespace Configuration

/-- The name that the rules give a genre. -/
def genreName (c : Configuration) (genre : String) : String :=
  (c.genreMap.substitute? genre).getD genre

/-- The genres of an item, under the names that the rules give them. -/
def genres (c : Configuration) (x : MediaItem) : List String :=
  ((x.metadata.all MetaKey.genre).flatMap commaParts).map c.genreName

end Configuration

end MediaShelves
