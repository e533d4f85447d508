import MediaShelves.Box.Table
import MediaShelves.NameMap
import MediaShelves.Options

/-!
# Configurations

Everything that plans need to know and no item tells: boxes, options and name maps.
-/

namespace MediaShelves

/-- Boxes, options and name maps, with the patterns of the options ready for use. -/
structure Configuration where
  boxes : BoxTable
  options : Options
  genreMap : NameMap
  modelMap : NameMap
  headlineMap : NameMap
  rawImages : Pattern
  topicDirectories : Option Pattern

namespace Configuration

/-! ## Construction -/

/-- Standard options and no rules around a box table. -/
def ofBoxes (boxes : BoxTable) : Except ConfigError Configuration := do
  let rawImages ← Pattern.ofText Options.standard.rawImageFilter
  return ⟨boxes, Options.standard, NameMap.empty, NameMap.empty, NameMap.empty, rawImages, none⟩

/-- The configuration that holds without a document. -/
def builtin : Except ConfigError Configuration :=
  ofBoxes BoxTable.builtin

/-- The same configuration under other options. -/
def withOptions (c : Configuration) (options : Options) : Except ConfigError Configuration := do
  let rawImages ← Pattern.ofText options.rawImageFilter
  let topicDirectories ← options.topicFromPath.mapM Pattern.ofText
  return { c with options, rawImages, topicDirectories }

/-- The same configuration with other rules for genres. -/
def withGenreMap (c : Configuration) (rules : List RuleText) :
    Except ConfigError Configuration := do
  return { c with genreMap := ← NameMap.ofRules rules }

/-- The same configuration with other rules for models. -/
def withModelMap (c : Configuration) (rules : List RuleText) :
    Except ConfigError Configuration := do
  return { c with modelMap := ← NameMap.ofRules rules }

/-- The same configuration with other rules for headlines. -/
def withHeadlineMap (c : Configuration) (rules : List RuleText) :
    Except ConfigError Configuration := do
  return { c with headlineMap := ← NameMap.ofRules rules }

/-- The same configuration with one box put into the table. -/
def withBox (c : Configuration) (b : Box) : Configuration :=
  { c with boxes := c.boxes.insert b }

/-! ## Questions -/

/-- Whether the detailed image plan leaves out a mimetype. -/
def isRawImage (c : Configuration) (mimetype : String) : Bool :=
  c.rawImages.occursIn mimetype

/-- The first of some directories that names a topic. -/
def topicDirectory? (c : Configuration) (directories : List String) : Option String :=
  c.topicDirectories.bind fun p => directories.find? p.occursIn

/-! ## Existence -/

/-- There are configurations with the standard plans and without rules around every table. -/
theorem exists_standard (t : BoxTable) :
    ∃ c : Configuration, c.boxes = t ∧ c.options.visual = .standard ∧
      c.headlineMap = NameMap.empty ∧ c.topicDirectories = none := by
  have hpattern : (Pattern.ofText? "").isSome := by
    decide +kernel
  obtain ⟨rawImages, -⟩ := Option.isSome_iff_exists.1 hpattern
  exact ⟨⟨t, { Options.standard with rawImageFilter := "" }, NameMap.empty, NameMap.empty,
    NameMap.empty, rawImages, none⟩, rfl, rfl, rfl, rfl⟩

/-- There are configurations around every table. -/
theorem exists_ofBoxes (t : BoxTable) : ∃ c : Configuration, c.boxes = t := by
  obtain ⟨c, hboxes, -⟩ := exists_standard t
  exact ⟨c, hboxes⟩

end Configuration

end MediaShelves
