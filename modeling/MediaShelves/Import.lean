import MediaShelves.Plan.Audio
import MediaShelves.Plan.Detailed
import MediaShelves.Plan.Directories
import MediaShelves.Plan.Online
import MediaShelves.Plan.Structured
import MediaShelves.Plan.Visual
import MediaShelves.Playlist.Shelving

/-!
# Imports

Which plan an item follows, by what it is and by what the options say.
-/

namespace MediaShelves

namespace Configuration

/-- Where an item goes that is no playlist; one of no known medium goes nowhere. -/
def plan (c : Configuration) (o : Origin) (x : MediaItem) : Except ConfigError Plan :=
  match x.medium with
  | .audio =>
    match c.options.audio with
    | .standard => c.audioPlan o x
    | .structured => c.structuredPlan x
  | .video =>
    if x.form = .externalUrl then c.onlinePlan x
    else
      match c.options.visual with
      | .standard => c.videoPlan o x
      | .detailed => c.detailedVideoPlan o x
  | .image =>
    match c.options.visual with
    | .standard => c.imagePlan o x
    | .detailed => c.detailedImagePlan o x
  | .other => .ok []

section

variable {σ : Type} [Shelves σ]

/-- Shelves a playlist file; one whose content cannot be read has no entries. -/
def importPlaylist (c : Configuration) (content : Option String) (x : MediaItem) (s : σ) :
    Except ConfigError (List NodeId) × σ :=
  match content with
  | some content => Playlist.shelve c x content s
  | none => (.ok [], s)

/-- Shelves an item; `read` gives the contents of files that are texts. -/
def importItem (c : Configuration) (read : String → Option String) (o : Origin) (x : MediaItem)
    (s : σ) : Except ConfigError (List NodeId) × σ :=
  if (Playlist.Format.ofMimetype? x.mimetype).isSome then c.importPlaylist (read x.location) x s
  else carryOutPlan (c.plan o x) s

end

end Configuration

end MediaShelves
