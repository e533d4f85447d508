import MediaShelves.Box.Table
import MediaShelves.Facets.Visual
import MediaShelves.Plan

/-!
# The standard plans for images and videos

Images and videos by year and month, by date and by directory.
-/

namespace MediaShelves

namespace Plan

/-- The boxes that the standard plan of a medium needs. -/
structure VisualBoxes where
  root : Box
  all : Box
  years : Box
  dates : Box
  directories : Box

/-- The boxes of the standard image plan; the one for unknown facets comes first. -/
def imageKeys : List String :=
  [BoxKey.imageUnknown, BoxKey.imageRoot, BoxKey.imageAll, BoxKey.imageYears, BoxKey.imageDates,
    BoxKey.imageDirectories]

/-- The boxes of the standard video plan; the one for unknown facets comes first. -/
def videoKeys : List String :=
  [BoxKey.videoUnknown, BoxKey.videoRoot, BoxKey.videoAll, BoxKey.videoYears, BoxKey.videoDates,
    BoxKey.videoDirectories]

/-- The boxes of images. -/
def imageBoxes (s : BoxSelection imageKeys) : VisualBoxes where
  root := s.box BoxKey.imageRoot
  all := s.box BoxKey.imageAll
  years := s.box BoxKey.imageYears
  dates := s.box BoxKey.imageDates
  directories := s.box BoxKey.imageDirectories

/-- The boxes of videos. -/
def videoBoxes (s : BoxSelection videoKeys) : VisualBoxes where
  root := s.box BoxKey.videoRoot
  all := s.box BoxKey.videoAll
  years := s.box BoxKey.videoYears
  dates := s.box BoxKey.videoDates
  directories := s.box BoxKey.videoDirectories

/-- The standard plan of a medium over its boxes, for an item with these facets. -/
def visual (c : Configuration) (b : VisualBoxes) (o : Origin) (x : MediaItem) (f : VisualFacets) :
    Plan :=
  let item := x.reference
  let root := b.root.folder
  let asContainer := some UpnpClass.container
  let year := Folder.facet f.dates.year UpnpClass.container [(MetaKey.upnpDate, f.dates.year)]
  let month := f.dates.month.toList.map fun month => Folder.plain month UpnpClass.container
  let date := Folder.facet f.dates.date UpnpClass.container []
  [⟨item, [root, b.all.folder], asContainer⟩] ++
  -- Years, with a folder for the month where the date has one.
  when b.years.enabled [⟨item, [root, b.years.folder, year] ++ month, asContainer⟩] ++
  -- Whole dates.
  when b.dates.enabled [⟨item, [root, b.dates.folder, date], asContainer⟩] ++
  -- Directories below the root.
  when (b.directories.enabled && !f.directories.isEmpty)
    [⟨item, Trail.throughDirectories [root, b.directories.folder]
      (Folder.plain "" UpnpClass.container) o x c.options.parentCount f.directories, none⟩]

end Plan

namespace Configuration

/-- Where an image goes under the standard plan. -/
def imagePlan (c : Configuration) (o : Origin) (x : MediaItem) : Except ConfigError Plan := do
  let s ← c.boxes.select Plan.imageKeys
  let placeholder := (s.folder BoxKey.imageUnknown).title
  return Plan.visual c (Plan.imageBoxes s) o x (c.imageFacets o x placeholder)

/-- Where a video goes under the standard plan. -/
def videoPlan (c : Configuration) (o : Origin) (x : MediaItem) : Except ConfigError Plan := do
  let s ← c.boxes.select Plan.videoKeys
  let placeholder := (s.folder BoxKey.videoUnknown).title
  return Plan.visual c (Plan.videoBoxes s) o x (c.videoFacets o x placeholder)

end Configuration

end MediaShelves
