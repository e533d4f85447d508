import MediaShelves.Facets.Date
import MediaShelves.Facets.Genre
import MediaShelves.Origin
import MediaShelves.Timestamp

/-!
# Visual facets

What an image or a video is shelved by.  Images tell it by what the camera recorded, videos by what
their sidecar says.
-/

namespace MediaShelves

open MediaShelves.Text

/-! ## Facts that the sources record -/

namespace FactKey

def exifModel := "EXIF_TAG_MODEL"
def exifCaptureTime := "EXIF_TAG_DATE_TIME_ORIGINAL"
def xmpHeadline := "Xmp.photoshop.Headline"
def sidecarModel := "NFO:model"
def sidecarTopic := "NFO:topic"
def sidecarSubtopic := "NFO:subtopic"
def sidecarCreationTime := "NFO:createdate"

end FactKey

/-! ## Facets -/

/-- What an image or a video is shelved by. -/
structure VisualFacets where
  dates : DateFacets
  /-- The directories below the root, without those that the options skip. -/
  directories : List String
  /-- When the item was taken, where that is recorded. -/
  taken : Option Timestamp
  model : Option String
  topic : Option String
  headline : Option String
deriving DecidableEq, Repr

namespace VisualFacets

/-- The time that begins the title of an item. -/
def titleTime? (f : VisualFacets) : Option String :=
  f.taken.map fun t => String.ofList t.writeAll

/-- The year and the month in which the item was taken. -/
def month? (f : VisualFacets) : Option String :=
  f.taken.map fun t => String.ofList t.writeMonth

end VisualFacets

namespace Configuration

/-- The directories below the root, without those that the options skip. -/
def directories (c : Configuration) (o : Origin) (x : MediaItem) : List String :=
  (o.directories x).drop c.options.skipFolders

/-- The name that the rules give a model. -/
def modelName (c : Configuration) (model : String) : String :=
  (c.modelMap.substitute? model).getD model

/-- The time in a recorded text. -/
def recordedTime? (format : List Timestamp.FormatPart) (text : String) : Option Timestamp :=
  Timestamp.read? format (trim text.toList)

/-- The beginning of the day of a date. -/
def dayTime? (date : String) : Option Timestamp :=
  Timestamp.read? Timestamp.dayFormat (date.toList.takeWhile (· != 'T'))

/-- The facets of an image, from what the camera recorded. -/
def imageFacets (c : Configuration) (o : Origin) (x : MediaItem) (placeholder : String) :
    VisualFacets :=
  let directories := c.directories o x
  let date := x.metadata.filled? MetaKey.date
  let source := (x.auxiliary? FactKey.xmpHeadline).or (x.metadata.filled? MetaKey.description)
  { dates := DateFacets.ofDate date placeholder
    directories := directories
    taken := ((x.auxiliary? FactKey.exifCaptureTime).bind
      (recordedTime? Timestamp.cameraFormat)).or (date.bind dayTime?)
    model := (x.auxiliary? FactKey.exifModel).map c.modelName
    topic := (c.topicDirectory? directories).or (source.bind (c.headlineMap.replace? .topic))
    headline := source.bind (c.headlineMap.replace? .replace) }

/-- A text after the rules of a purpose, or as it is if none applies. -/
def renamed (c : Configuration) (purpose : RulePurpose) (text : String) : String :=
  (c.headlineMap.replace? purpose text).getD text

/-- The facets of a video, from what its sidecar says. -/
def videoFacets (c : Configuration) (o : Origin) (x : MediaItem) (placeholder : String) :
    VisualFacets :=
  let directories := c.directories o x
  let date := x.metadata.filled? MetaKey.date
  { dates := DateFacets.ofDate date placeholder
    directories := directories
    taken := ((x.auxiliary? FactKey.sidecarCreationTime).bind
      (recordedTime? Timestamp.compactFormat)).or (date.bind dayTime?)
    model := (x.auxiliary? FactKey.sidecarModel).map c.modelName
    topic := (c.topicDirectory? directories).or
      ((x.auxiliary? FactKey.sidecarTopic).map (c.renamed .topic))
    headline := (x.auxiliary? FactKey.sidecarSubtopic).map (c.renamed .replace) }

end Configuration

end MediaShelves
