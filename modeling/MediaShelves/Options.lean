/-!
# Options

The settings that plans read beside the boxes.
-/

namespace MediaShelves

/-- How audio items are shelved. -/
inductive AudioStyle where
  | standard
  /-- By letter buckets and decades. -/
  | structured
deriving DecidableEq, Repr

/-- How images and videos are shelved. -/
inductive VisualStyle where
  | standard
  /-- By model, topic and time. -/
  | detailed
deriving DecidableEq, Repr

/-- The settings that plans read beside the boxes. -/
structure Options where
  /-- The detailed image plan leaves out items whose mimetype matches this pattern. -/
  rawImageFilter : String
  /-- How many leading directories do not become folders. -/
  skipFolders : Nat
  /-- Which directories name the topic of an item. -/
  topicFromPath : Option String
  /-- How many of the deepest directory folders borrow the resources of the item. -/
  parentCount : UInt64
  audio : AudioStyle
  visual : VisualStyle
deriving DecidableEq, Repr

namespace Options

/-- The options that hold unless a configuration says otherwise. -/
def standard : Options where
  rawImageFilter := "image/.*raw"
  skipFolders := 0
  topicFromPath := none
  parentCount := 1
  audio := .standard
  visual := .standard

end Options

end MediaShelves
