import MediaShelves.Configuration
import MediaShelves.Toml.Reading

/-!
# Configuration documents

The configuration that a TOML document describes.  A document may leave out whatever the built-in
configuration settles, but what it says must have the right name, the right type and the right
range.
-/

namespace MediaShelves

open MediaShelves.Toml

/-! ## Parts of a value -/

namespace Toml.Value

/-- A text. -/
def text? : Value → Option String
  | .string s => some s
  | _ => none

/-- A truth value. -/
def truth? : Value → Option Bool
  | .boolean b => some b
  | _ => none

/-- An integer from 0 to `limit`. -/
def natural? (limit : Nat) : Value → Option Nat
  | .integer n => if 0 ≤ n ∧ n.toNat ≤ limit then some n.toNat else none
  | _ => none

/-- The items of an array. -/
def items? : Value → Option (List Value)
  | .array items => some items
  | _ => none

/-- A word: a text, or a table whose only entry has the word as its key and nothing as its value. -/
def word? : Value → Option String
  | .string s => some s
  | .table [(word, .array [])] => some word
  | .table [(word, .table [])] => some word
  | _ => none

/--
The fields of a record.  It is a table that has known names only, or an array with the values in
the order of the names, at least the first `least` of them.
-/
def fields? (names : List String) (least : Nat) : Value → Option (List (String × Value))
  | .table entries => if entries.all (names.contains ·.1) then some entries else none
  | .array items => if least ≤ items.length then some (names.zip items) else none
  | _ => none

end Toml.Value

/-- A field that may be left out. -/
def optionalField? {α : Type} (fields : List (String × Value)) (name : String)
    (read : Value → Option α) : Option (Option α) :=
  match fields.lookup name with
  | none => some none
  | some v => (read v).map some

/-- A field that must be there. -/
def requiredField? {α : Type} (fields : List (String × Value)) (name : String)
    (read : Value → Option α) : Option α :=
  (fields.lookup name).bind read

/-! ## Parts of a configuration -/

/-- The style that a word means for audio items. -/
def AudioStyle.ofValue? (v : Value) : Option AudioStyle :=
  match v.word? with
  | some "default" => some .standard
  | some "structured" => some .structured
  | _ => none

/-- The style that a word means for images and videos. -/
def VisualStyle.ofValue? (v : Value) : Option VisualStyle :=
  match v.word? with
  | some "default" => some .standard
  | some "detail" => some .detailed
  | _ => none

/-- The purpose that a word means. -/
def RulePurpose.ofValue? (v : Value) : Option RulePurpose :=
  match v.word? with
  | some "replace" => some .replace
  | some "topic" => some .topic
  | _ => none

/-- The options of a record; what it leaves out is standard. -/
def Options.ofValue? (v : Value) : Option Options := do
  let fields ← v.fields? ["raw_image_filter", "skip_folders", "topic_from_path", "parent_count",
    "audio_layout", "visual_layout"] 0
  let filter ← optionalField? fields "raw_image_filter" Value.text?
  let skipped ← optionalField? fields "skip_folders" (Value.natural? Text.max64)
  let topic ← optionalField? fields "topic_from_path" Value.text?
  let parents ← optionalField? fields "parent_count" (Value.natural? Text.max64)
  let audio ← optionalField? fields "audio_layout" AudioStyle.ofValue?
  let visual ← optionalField? fields "visual_layout" VisualStyle.ofValue?
  return {
    rawImageFilter := filter.getD standard.rawImageFilter
    skipFolders := skipped.getD standard.skipFolders
    topicFromPath := topic
    parentCount := (parents.map UInt64.ofNat).getD standard.parentCount
    audio := audio.getD standard.audio
    visual := visual.getD standard.visual }

/-- The settings of a record about a box; only the key must be there. -/
def BoxSettings.ofValue? (v : Value) : Option BoxSettings := do
  let fields ← v.fields? ["key", "title", "class", "enabled", "searchable", "id", "upnp_shortcut",
    "sort_key", "size"] 9
  return {
    key := ← requiredField? fields "key" Value.text?
    title := ← optionalField? fields "title" Value.text?
    upnpClass := ← optionalField? fields "class" Value.text?
    enabled := ← optionalField? fields "enabled" Value.truth?
    searchable := ← optionalField? fields "searchable" Value.truth?
    pinned := ← optionalField? fields "id" (Value.natural? Text.max32)
    shortcut := ← optionalField? fields "upnp_shortcut" Value.text?
    sortKey := ← optionalField? fields "sort_key" Value.text?
    size := ← optionalField? fields "size" (Value.natural? Text.max32) }

/-- The rule of a record; the purpose is to replace unless it says otherwise. -/
def RuleText.ofValue? (v : Value) : Option RuleText := do
  let fields ← v.fields? ["from", "to", "type"] 2
  let pattern ← requiredField? fields "from" Value.text?
  let target ← requiredField? fields "to" Value.text?
  let purpose ← optionalField? fields "type" RulePurpose.ofValue?
  return ⟨pattern, target, purpose.getD .replace⟩

/-! ## Documents -/

/-- What a document says, before any pattern is read. -/
structure ConfigurationDocument where
  boxes : List BoxSettings
  options : Options
  genreRules : List RuleText
  modelRules : List RuleText
  headlineRules : List RuleText
deriving Repr

namespace ConfigurationDocument

/-- What the value of a document says. -/
def ofValue? (v : Value) : Option ConfigurationDocument := do
  let fields ← v.fields? ["boxes", "options", "genre_map", "model_map", "headline_map"] 0
  let list {α : Type} (read : Value → Option α) (v : Value) : Option (List α) := do
    (← v.items?).mapM read
  let boxes ← optionalField? fields "boxes" (list BoxSettings.ofValue?)
  let options ← optionalField? fields "options" Options.ofValue?
  let genreRules ← optionalField? fields "genre_map" (list RuleText.ofValue?)
  let modelRules ← optionalField? fields "model_map" (list RuleText.ofValue?)
  let headlineRules ← optionalField? fields "headline_map" (list RuleText.ofValue?)
  return ⟨boxes.getD [], options.getD Options.standard, genreRules.getD [], modelRules.getD [],
    headlineRules.getD []⟩

end ConfigurationDocument

/-- The configuration of a document; options are read first, then genres, models and headlines. -/
def Configuration.ofDocument (d : ConfigurationDocument) : Except ConfigError Configuration := do
  let c ← ofBoxes (BoxTable.ofSettings d.boxes)
  let c ← c.withOptions d.options
  let c ← c.withGenreMap d.genreRules
  let c ← c.withModelMap d.modelRules
  c.withHeadlineMap d.headlineRules

/-- The configuration of a text; a text that says nothing sensible is malformed. -/
def Configuration.ofText (text : String) : Except ConfigError Configuration :=
  match (Value.ofDocument? text).bind ConfigurationDocument.ofValue? with
  | some d => ofDocument d
  | none => .error .malformed

/-- The configuration of the octets of a file, where there is a file. -/
def Configuration.ofFile (content : Option ByteArray) : Except ConfigError Configuration :=
  match content.bind String.fromUTF8? with
  | some text => ofText text
  | none => .error .unreadable

end MediaShelves
