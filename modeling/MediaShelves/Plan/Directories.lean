import MediaShelves.Configuration
import MediaShelves.Plan

/-!
# The directory plan

Items in folders that have the shape of the directories below the root.
-/

namespace MediaShelves

/-- Where an item goes by its directories alone; an item right in the root goes nowhere. -/
def Configuration.directoryPlan (c : Configuration) (o : Origin) (x : MediaItem) : Plan :=
  let directories := o.directories x
  Plan.when (!directories.isEmpty)
    [⟨x.reference,
      Trail.throughDirectories [] (Folder.plain "" UpnpClass.container) o x c.options.parentCount
        directories, none⟩]

end MediaShelves
