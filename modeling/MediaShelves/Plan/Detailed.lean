import MediaShelves.Box.Table
import MediaShelves.Facets.Visual
import MediaShelves.Plan

/-!
# The detailed plans for images and videos

Images by time, model and topic, videos by topic.
-/

namespace MediaShelves

namespace Plan

/-- The boxes of the detailed image plan. -/
def detailedImageKeys : List String :=
  [BoxKey.imageRoot, BoxKey.imageAll, BoxKey.imageDirectories, BoxKey.imageUnknown,
    BoxKey.imageModels, BoxKey.imageYearMonth, BoxKey.imageYearDate, BoxKey.topicRoot, BoxKey.topic,
    BoxKey.topicExtra]

/-- The boxes of the detailed video plan. -/
def detailedVideoKeys : List String :=
  [BoxKey.videoRoot, BoxKey.videoAll, BoxKey.videoDirectories, BoxKey.videoUnknown,
    BoxKey.topicRoot, BoxKey.topic, BoxKey.topicExtra]

/-! ## Titles -/

/-- The title of an item after the time at which it was taken. -/
def timedTitle (x : MediaItem) (f : VisualFacets) : String :=
  f.titleTime?.getD "" ++ x.title

/-- The title of an item after the time and the model with which it was taken. -/
def modelTitle (x : MediaItem) (f : VisualFacets) : String :=
  match f.model with
  | some model => f.titleTime?.getD "" ++ model ++ "-" ++ x.title
  | none => timedTitle x f

/-! ## Topics -/

/-- The boxes of the topic axis. -/
structure TopicBoxes where
  root : Box
  topic : Box
  extra : Box

/-- Whether the topic axis is in use. -/
def TopicBoxes.enabled (b : TopicBoxes) : Bool :=
  b.root.enabled && b.topic.enabled

/-- The trail of a topic below the root of the medium. -/
def TopicBoxes.trail (b : TopicBoxes) (mediaRoot : Folder) (topic : Option String)
    (headline : Option String) (month : String) : Trail :=
  [mediaRoot, b.root.folder,
    b.topic.folder.titled (topic.getD b.topic.title),
    b.extra.folder.titled (headline.getD b.extra.title),
    Folder.plain month UpnpClass.container]

/-! ## The plans -/

/-- The detailed image plan over its boxes. -/
def detailedImage (c : Configuration) (s : BoxSelection detailedImageKeys) (o : Origin)
    (x : MediaItem) : Plan :=
  let placeholder := (s.box BoxKey.imageUnknown).title
  let f := c.imageFacets o x placeholder
  let item := x.titled (modelTitle x f)
  let root := s.folder BoxKey.imageRoot
  let plain (title : String) := Folder.plain title UpnpClass.container
  let topics : TopicBoxes :=
    ⟨s.box BoxKey.topicRoot, s.box BoxKey.topic, s.box BoxKey.topicExtra⟩
  [⟨item, [root, s.folder BoxKey.imageAll], none⟩] ++
  when (s.enabled BoxKey.imageDirectories && !f.directories.isEmpty)
    [⟨item, Trail.throughDirectories [root, s.folder BoxKey.imageDirectories]
      (Folder.plain "" UpnpClass.photoAlbum) o x c.options.parentCount f.directories, none⟩] ++
  -- Years with months.
  when (s.enabled BoxKey.imageYearMonth)
    [⟨item, [root, s.folder BoxKey.imageYearMonth, plain f.dates.year] ++
      f.dates.month.toList.map plain, none⟩] ++
  -- An image is under a topic only if it has a headline.
  when (f.headline.isSome && topics.enabled)
    [⟨item, topics.trail root f.topic f.headline (f.month?.getD placeholder), none⟩] ++
  -- Years with whole dates.
  when (s.enabled BoxKey.imageYearDate)
    [⟨item, [root, s.folder BoxKey.imageYearDate, plain f.dates.year, plain f.dates.date], none⟩] ++
  -- Models; here the title leaves the model out.
  when (s.enabled BoxKey.imageModels)
    (f.model.toList.map fun model =>
      ⟨x.titled (timedTitle x f),
        [root, s.folder BoxKey.imageModels, Folder.plain model UpnpClass.photoAlbum], none⟩)

/-- The detailed video plan over its boxes. -/
def detailedVideo (c : Configuration) (s : BoxSelection detailedVideoKeys) (o : Origin)
    (x : MediaItem) : Plan :=
  let placeholder := (s.box BoxKey.videoUnknown).title
  let f := c.videoFacets o x placeholder
  let item := x.titled (modelTitle x f)
  let root := s.folder BoxKey.videoRoot
  let topics : TopicBoxes :=
    ⟨s.box BoxKey.topicRoot, s.box BoxKey.topic, s.box BoxKey.topicExtra⟩
  [⟨item, [root, s.folder BoxKey.videoAll], none⟩] ++
  when (s.enabled BoxKey.videoDirectories && !f.directories.isEmpty)
    [⟨item, Trail.throughDirectories [root, s.folder BoxKey.videoDirectories]
      (Folder.plain "" UpnpClass.container) o x c.options.parentCount f.directories, none⟩] ++
  -- A video is under a topic if it has a topic or a headline.
  when ((f.topic.isSome || f.headline.isSome) && topics.enabled)
    [⟨item, topics.trail root f.topic f.headline (f.month?.getD placeholder), none⟩]

end Plan

namespace Configuration

/-- Where an image goes under the detailed plan; a raw image goes nowhere. -/
def detailedImagePlan (c : Configuration) (o : Origin) (x : MediaItem) :
    Except ConfigError Plan := do
  if c.isRawImage x.mimetype then return []
  let s ← c.boxes.select Plan.detailedImageKeys
  return Plan.detailedImage c s o x

/-- Where a video goes under the detailed plan. -/
def detailedVideoPlan (c : Configuration) (o : Origin) (x : MediaItem) :
    Except ConfigError Plan := do
  let s ← c.boxes.select Plan.detailedVideoKeys
  return Plan.detailedVideo c s o x

end Configuration

end MediaShelves
