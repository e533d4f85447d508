import MediaShelves.Box.Table
import MediaShelves.Configuration
import MediaShelves.Plan

/-!
# The plan for online items

Items of an online service by genre and by the months of release and posting.
-/

namespace MediaShelves

/-- The fact under which a service records when an item was posted. -/
def FactKey.postDate := "T0"

namespace Plan

/-- The boxes of the online plan. -/
def onlineKeys : List String :=
  [BoxKey.trailerRoot, BoxKey.trailerService, BoxKey.trailerAll, BoxKey.trailerGenres,
    BoxKey.trailerReleaseDate, BoxKey.trailerPostDate, BoxKey.trailerUnknown]

/-- The year and the month of a date that is long enough to have them. -/
def monthOf? (date : String) : Option String :=
  let month := date.toList.take 7
  if month.length = 7 then some (String.ofList month) else none

/-- The folder of a month. -/
def monthFolder (month : String) : Folder :=
  Folder.facet month UpnpClass.container [(MetaKey.date, month), (MetaKey.upnpDate, month)]

/-- The parts of a text between commas that a space follows. -/
def commaSpaceParts : List Char → List (List Char)
  | [] => [[]]
  | ',' :: ' ' :: rest => [] :: commaSpaceParts rest
  | c :: rest =>
    match commaSpaceParts rest with
    | part :: parts => (c :: part) :: parts
    | [] => [[c]]

/-- The genres that an online item lists. -/
def listedGenres (x : MediaItem) : List String :=
  match x.metadata.filled? MetaKey.genre with
  | some genres => ((commaSpaceParts genres.toList).map String.ofList).filter (· ≠ "")
  | none => []

/-- The folder of a genre that an online item lists. -/
def listedGenreFolder (genre : String) : Folder :=
  Folder.facet genre UpnpClass.musicGenre [(MetaKey.genre, genre)]

/-- The online plan over its boxes. -/
def online (s : BoxSelection onlineKeys) (x : MediaItem) : Plan :=
  let item := { x.reference with sortKey := "" }
  let service := [s.folder BoxKey.trailerRoot, s.folder BoxKey.trailerService]
  let released := (x.metadata.filled? MetaKey.date).bind monthOf?
  let posted := (x.auxiliary? FactKey.postDate).bind monthOf?
  [⟨item, service ++ [s.folder BoxKey.trailerAll], none⟩] ++
  -- Listed genres, one placement each.
  when (s.enabled BoxKey.trailerGenres)
    ((listedGenres x).map fun genre =>
      ⟨item, service ++ [s.folder BoxKey.trailerGenres, listedGenreFolder genre], none⟩) ++
  -- The month of release and the month of posting, where they are known.
  when (s.enabled BoxKey.trailerReleaseDate)
    (released.toList.map fun month =>
      ⟨item, service ++ [s.folder BoxKey.trailerReleaseDate, monthFolder month], none⟩) ++
  when (s.enabled BoxKey.trailerPostDate)
    (posted.toList.map fun month =>
      ⟨item, service ++ [s.folder BoxKey.trailerPostDate, monthFolder month], none⟩)

end Plan

/-- Where an online item goes. -/
def Configuration.onlinePlan (c : Configuration) (x : MediaItem) : Except ConfigError Plan := do
  let s ← c.boxes.select Plan.onlineKeys
  return Plan.online s x

end MediaShelves
